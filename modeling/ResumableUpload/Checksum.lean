import ResumableUpload.Digest.Algorithm
import ResumableUpload.Text.Base64
import ResumableUpload.Text.Blank
import ResumableUpload.Text.Split
/-!
# Checksums

A client may send the digest of the bytes it sends, as the name of an
algorithm and the digest in base64.  A checksum that was announced but did not
arrive is replaced by one that no content has, so that the bytes it would have
vouched for are discarded.
-/

namespace ResumableUpload

/-- The digest that a client claims its bytes have. -/
structure Checksum where
  /-- The name of the algorithm, with ASCII letters in lower case. -/
  algorithm : String
  hash : Bytes
  deriving DecidableEq, Repr

namespace Checksum

/--
The checksum that a text stands for: a name, one blank, and a digest in
canonical base64, neither of them empty.
-/
def parse? (text : String) : Option Checksum :=
  match Split.pieces ' ' (Blank.trimmed text.toList) with
  | [algorithm, encoded] =>
      match Base64.decode encoded with
      | some hash =>
          if algorithm.isEmpty || hash.isEmpty then none
          else some ⟨Ascii.toLower (String.ofList algorithm), hash⟩
      | none => none
  | _ => none

/-- The checksum in place of one that was announced and did not arrive. -/
def sentinel : Checksum :=
  ⟨Algorithm.sha1.name, List.replicate Algorithm.sha1.digestLength 0⟩

/-- Whether the algorithm is among those of a list of names. -/
def isAmong (checksum : Checksum) (algorithms : List String) : Bool :=
  algorithms.any fun name => Ascii.equal name checksum.algorithm

end Checksum

end ResumableUpload
