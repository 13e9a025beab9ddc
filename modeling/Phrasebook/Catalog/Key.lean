import Phrasebook.Digest.Sha256

/-!
# Message keys

A message may be stored under a short key made from its source text: the first four bytes of
the SHA-256 digest of the text's UTF-8 bytes, in lowercase hexadecimal. A key is eight
characters from `0-9a-f`.
-/

namespace Phrasebook

def keyLength : Nat := 8

def messageKey (source : String) : String :=
  String.join ((Digest.sha256 source.toUTF8.toList).take (keyLength / 2) |>.map Digest.hexByte)

def isMessageKey (candidate : String) : Bool :=
  candidate.utf8ByteSize == keyLength &&
    candidate.toList.all fun c => c.isDigit || ('a' ≤ c && c ≤ 'f')

end Phrasebook
