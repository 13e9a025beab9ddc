import Phrasebook.Plural.Rule

/-!
# Plural rule data

The CLDR plural rules of release 37, cardinal and ordinal, by groups of language identifiers
that share a rule set. Each rule set lists its rules in the alphabetical order of their category
names, the order in which they are tried. A language identifier that appears in no group has no
rules of that kind.
-/

namespace Phrasebook.Plural

/-- language identifiers that share a rule set, and the rules as CLDR writes them -/
structure RuleGroup where
  locales : List String
  rules : List (Category × String)

def cardinalGroups : List RuleGroup := [
  ⟨
    ["bm", "bo", "dz", "id", "ig", "ii", "in", "ja", "jbo", "jv", "jw", "kde", "kea", "km", "ko",
     "lkt", "lo", "ms", "my", "nqo", "osa", "root", "sah", "ses", "sg", "su", "th", "to", "vi",
     "wo", "yo", "yue", "zh"],
    []⟩,
  ⟨
    ["am", "as", "bn", "fa", "gu", "hi", "kn", "pcm", "zu"],
    [(.one, "i = 0 or n = 1")]⟩,
  ⟨
    ["ff", "fr", "hy", "kab"],
    [(.one, "i = 0,1")]⟩,
  ⟨
    ["pt"],
    [(.one, "i = 0..1")]⟩,
  ⟨
    ["ast", "ca", "de", "en", "et", "fi", "fy", "gl", "ia", "io", "it", "ji", "nl", "pt-PT",
     "sc", "scn", "sv", "sw", "ur", "yi"],
    [(.one, "i = 1 and v = 0")]⟩,
  ⟨
    ["si"],
    [(.one, "n = 0,1 or i = 0 and f = 1")]⟩,
  ⟨
    ["ak", "bho", "guw", "ln", "mg", "nso", "pa", "ti", "wa"],
    [(.one, "n = 0..1")]⟩,
  ⟨
    ["tzm"],
    [(.one, "n = 0..1 or n = 11..99")]⟩,
  ⟨
    ["af", "an", "asa", "az", "bem", "bez", "bg", "brx", "ce", "cgg", "chr", "ckb", "dv", "ee",
     "el", "eo", "es", "eu", "fo", "fur", "gsw", "ha", "haw", "hu", "jgo", "jmc", "ka", "kaj",
     "kcg", "kk", "kkj", "kl", "ks", "ksb", "ku", "ky", "lb", "lg", "mas", "mgo", "ml", "mn",
     "mr", "nah", "nb", "nd", "ne", "nn", "nnh", "no", "nr", "ny", "nyn", "om", "or", "os",
     "pap", "ps", "rm", "rof", "rwk", "saq", "sd", "sdh", "seh", "sn", "so", "sq", "ss", "ssy",
     "st", "syr", "ta", "te", "teo", "tig", "tk", "tn", "tr", "ts", "ug", "uz", "ve", "vo",
     "vun", "wae", "xh", "xog"],
    [(.one, "n = 1")]⟩,
  ⟨
    ["da"],
    [(.one, "n = 1 or t != 0 and i = 0,1")]⟩,
  ⟨
    ["is"],
    [(.one, "t = 0 and i % 10 = 1 and i % 100 != 11 or t != 0")]⟩,
  ⟨
    ["mk"],
    [(.one, "v = 0 and i % 10 = 1 and i % 100 != 11 or f % 10 = 1 and f % 100 != 11")]⟩,
  ⟨
    ["ceb", "fil", "tl"],
    [(.one, "v = 0 and i = 1,2,3 or v = 0 and i % 10 != 4,6,9 or v != 0 and f % 10 != 4,6,9")]⟩,
  ⟨
    ["lv", "prg"],
    [(.one, "n % 10 = 1 and n % 100 != 11 or v = 2 and f % 10 = 1 and f % 100 != 11 or v != 2 and f % 10 = 1"), (.zero, "n % 10 = 0 or n % 100 = 11..19 or v = 2 and f % 100 = 11..19")]⟩,
  ⟨
    ["lag"],
    [(.one, "i = 0,1 and n != 0"), (.zero, "n = 0")]⟩,
  ⟨
    ["ksh"],
    [(.one, "n = 1"), (.zero, "n = 0")]⟩,
  ⟨
    ["iu", "naq", "sat", "se", "sma", "smi", "smj", "smn", "sms"],
    [(.one, "n = 1"), (.two, "n = 2")]⟩,
  ⟨
    ["shi"],
    [(.few, "n = 2..10"), (.one, "i = 0 or n = 1")]⟩,
  ⟨
    ["mo", "ro"],
    [(.few, "v != 0 or n = 0 or n % 100 = 2..19"), (.one, "i = 1 and v = 0")]⟩,
  ⟨
    ["bs", "hr", "sh", "sr"],
    [(.few, "v = 0 and i % 10 = 2..4 and i % 100 != 12..14 or f % 10 = 2..4 and f % 100 != 12..14"), (.one, "v = 0 and i % 10 = 1 and i % 100 != 11 or f % 10 = 1 and f % 100 != 11")]⟩,
  ⟨
    ["gd"],
    [(.few, "n = 3..10,13..19"), (.one, "n = 1,11"), (.two, "n = 2,12")]⟩,
  ⟨
    ["sl"],
    [(.few, "v = 0 and i % 100 = 3..4 or v != 0"), (.one, "v = 0 and i % 100 = 1"), (.two, "v = 0 and i % 100 = 2")]⟩,
  ⟨
    ["dsb", "hsb"],
    [(.few, "v = 0 and i % 100 = 3..4 or f % 100 = 3..4"), (.one, "v = 0 and i % 100 = 1 or f % 100 = 1"), (.two, "v = 0 and i % 100 = 2 or f % 100 = 2")]⟩,
  ⟨
    ["he", "iw"],
    [(.many, "v = 0 and n != 0..10 and n % 10 = 0"), (.one, "i = 1 and v = 0"), (.two, "i = 2 and v = 0")]⟩,
  ⟨
    ["cs", "sk"],
    [(.few, "i = 2..4 and v = 0"), (.many, "v != 0"), (.one, "i = 1 and v = 0")]⟩,
  ⟨
    ["pl"],
    [(.few, "v = 0 and i % 10 = 2..4 and i % 100 != 12..14"), (.many, "v = 0 and i != 1 and i % 10 = 0..1 or v = 0 and i % 10 = 5..9 or v = 0 and i % 100 = 12..14"), (.one, "i = 1 and v = 0")]⟩,
  ⟨
    ["be"],
    [(.few, "n % 10 = 2..4 and n % 100 != 12..14"), (.many, "n % 10 = 0 or n % 10 = 5..9 or n % 100 = 11..14"), (.one, "n % 10 = 1 and n % 100 != 11")]⟩,
  ⟨
    ["lt"],
    [(.few, "n % 10 = 2..9 and n % 100 != 11..19"), (.many, "f != 0"), (.one, "n % 10 = 1 and n % 100 != 11..19")]⟩,
  ⟨
    ["mt"],
    [(.few, "n = 0 or n % 100 = 2..10"), (.many, "n % 100 = 11..19"), (.one, "n = 1")]⟩,
  ⟨
    ["ru", "uk"],
    [(.few, "v = 0 and i % 10 = 2..4 and i % 100 != 12..14"), (.many, "v = 0 and i % 10 = 0 or v = 0 and i % 10 = 5..9 or v = 0 and i % 100 = 11..14"), (.one, "v = 0 and i % 10 = 1 and i % 100 != 11")]⟩,
  ⟨
    ["br"],
    [(.few, "n % 10 = 3..4,9 and n % 100 != 10..19,70..79,90..99"), (.many, "n != 0 and n % 1000000 = 0"), (.one, "n % 10 = 1 and n % 100 != 11,71,91"), (.two, "n % 10 = 2 and n % 100 != 12,72,92")]⟩,
  ⟨
    ["ga"],
    [(.few, "n = 3..6"), (.many, "n = 7..10"), (.one, "n = 1"), (.two, "n = 2")]⟩,
  ⟨
    ["gv"],
    [(.few, "v = 0 and i % 100 = 0,20,40,60,80"), (.many, "v != 0"), (.one, "v = 0 and i % 10 = 1"), (.two, "v = 0 and i % 10 = 2")]⟩,
  ⟨
    ["kw"],
    [(.few, "n % 100 = 3,23,43,63,83"), (.many, "n != 1 and n % 100 = 1,21,41,61,81"), (.one, "n = 1"), (.two, "n % 100 = 2,22,42,62,82 or n % 1000 = 0 and n % 100000 = 1000..20000,40000,60000,80000 or n != 0 and n % 1000000 = 100000"), (.zero, "n = 0")]⟩,
  ⟨
    ["ar", "ars"],
    [(.few, "n % 100 = 3..10"), (.many, "n % 100 = 11..99"), (.one, "n = 1"), (.two, "n = 2"), (.zero, "n = 0")]⟩,
  ⟨
    ["cy"],
    [(.few, "n = 3"), (.many, "n = 6"), (.one, "n = 1"), (.two, "n = 2"), (.zero, "n = 0")]⟩]

def ordinalGroups : List RuleGroup := [
  ⟨
    ["af", "am", "an", "ar", "bg", "bs", "ce", "cs", "da", "de", "dsb", "el", "es", "et", "eu",
     "fa", "fi", "fy", "gl", "gsw", "he", "hr", "hsb", "ia", "id", "in", "is", "iw", "ja", "km",
     "kn", "ko", "ky", "lt", "lv", "ml", "mn", "my", "nb", "nl", "pa", "pl", "prg", "ps", "pt",
     "root", "ru", "sd", "sh", "si", "sk", "sl", "sr", "sw", "ta", "te", "th", "tr", "ur", "uz",
     "yue", "zh", "zu"],
    []⟩,
  ⟨
    ["sv"],
    [(.one, "n % 10 = 1,2 and n % 100 != 11,12")]⟩,
  ⟨
    ["fil", "fr", "ga", "hy", "lo", "mo", "ms", "ro", "tl", "vi"],
    [(.one, "n = 1")]⟩,
  ⟨
    ["hu"],
    [(.one, "n = 1,5")]⟩,
  ⟨
    ["ne"],
    [(.one, "n = 1..4")]⟩,
  ⟨
    ["be"],
    [(.few, "n % 10 = 2,3 and n % 100 != 12,13")]⟩,
  ⟨
    ["uk"],
    [(.few, "n % 10 = 3 and n % 100 != 13")]⟩,
  ⟨
    ["tk"],
    [(.few, "n % 10 = 6,9 or n = 10")]⟩,
  ⟨
    ["kk"],
    [(.many, "n % 10 = 6 or n % 10 = 9 or n % 10 = 0 and n != 0")]⟩,
  ⟨
    ["it", "sc", "scn"],
    [(.many, "n = 11,8,80,800")]⟩,
  ⟨
    ["ka"],
    [(.many, "i = 0 or i % 100 = 2..20,40,60,80"), (.one, "i = 1")]⟩,
  ⟨
    ["sq"],
    [(.many, "n % 10 = 4 and n % 100 != 14"), (.one, "n = 1")]⟩,
  ⟨
    ["kw"],
    [(.many, "n = 5 or n % 100 = 5"), (.one, "n = 1..4 or n % 100 = 1..4,21..24,41..44,61..64,81..84")]⟩,
  ⟨
    ["en"],
    [(.few, "n % 10 = 3 and n % 100 != 13"), (.one, "n % 10 = 1 and n % 100 != 11"), (.two, "n % 10 = 2 and n % 100 != 12")]⟩,
  ⟨
    ["mr"],
    [(.few, "n = 4"), (.one, "n = 1"), (.two, "n = 2,3")]⟩,
  ⟨
    ["gd"],
    [(.few, "n = 3,13"), (.one, "n = 1,11"), (.two, "n = 2,12")]⟩,
  ⟨
    ["ca"],
    [(.few, "n = 4"), (.one, "n = 1,3"), (.two, "n = 2")]⟩,
  ⟨
    ["mk"],
    [(.many, "i % 10 = 7,8 and i % 100 != 17,18"), (.one, "i % 10 = 1 and i % 100 != 11"), (.two, "i % 10 = 2 and i % 100 != 12")]⟩,
  ⟨
    ["az"],
    [(.few, "i % 10 = 3,4 or i % 1000 = 100,200,300,400,500,600,700,800,900"), (.many, "i = 0 or i % 10 = 6 or i % 100 = 40,60,90"), (.one, "i % 10 = 1,2,5,7,8 or i % 100 = 20,50,70,80")]⟩,
  ⟨
    ["gu", "hi"],
    [(.few, "n = 4"), (.many, "n = 6"), (.one, "n = 1"), (.two, "n = 2,3")]⟩,
  ⟨
    ["as", "bn"],
    [(.few, "n = 4"), (.many, "n = 6"), (.one, "n = 1,5,7,8,9,10"), (.two, "n = 2,3")]⟩,
  ⟨
    ["or"],
    [(.few, "n = 4"), (.many, "n = 6"), (.one, "n = 1,5,7..9"), (.two, "n = 2,3")]⟩,
  ⟨
    ["cy"],
    [(.few, "n = 3,4"), (.many, "n = 5,6"), (.one, "n = 1"), (.two, "n = 2"), (.zero, "n = 0,7,8,9")]⟩]

end Phrasebook.Plural
