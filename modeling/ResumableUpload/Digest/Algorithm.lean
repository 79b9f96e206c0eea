import ResumableUpload.Text.Ascii
import ResumableUpload.Digest.MD5
import ResumableUpload.Digest.SHA1
import ResumableUpload.Digest.SHA256
/-!
# Digest algorithms

The algorithms that checksums may name, by the names used on the wire.  A
digest may be taken of a whole message or of a message that arrives in parts.
-/

namespace ResumableUpload

/-- The algorithms a checksum may name. -/
inductive Algorithm where
  | md5
  | sha1
  | sha256
  deriving DecidableEq, Repr

namespace Algorithm

/-- All algorithms, in the order in which they are advertised. -/
def all : List Algorithm := [.sha1, .sha256, .md5]

def name : Algorithm → String
  | .md5 => "md5"
  | .sha1 => "sha1"
  | .sha256 => "sha256"

/-- The length of a digest in bytes. -/
def digestLength : Algorithm → Nat
  | .md5 => 16
  | .sha1 => 20
  | .sha256 => 32

/-- The algorithm with a name, whatever the case of its letters. -/
def ofName? (text : String) : Option Algorithm :=
  all.find? fun algorithm => algorithm.name == Ascii.toLower text

/-- What is said of a name that belongs to no algorithm. -/
def unknownMessage (text : String) : String :=
  "unknown checksum algorithm: " ++ text

def digest : Algorithm → Bytes → Bytes
  | .md5 => Digest.MD5.construction.digest
  | .sha1 => Digest.SHA1.construction.digest
  | .sha256 => Digest.SHA256.construction.digest

/-- Whether a message has an expected digest. -/
def agrees (algorithm : Algorithm) (message expected : Bytes) : Bool :=
  expected.length == algorithm.digestLength
    && algorithm.digest message == expected

end Algorithm

/-- A digest of a message that arrives in parts. -/
inductive PartialDigest where
  | md5 (running : Digest.Running Digest.MD5.State)
  | sha1 (running : Digest.Running Digest.SHA1.State)
  | sha256 (running : Digest.Running Digest.SHA256.State)

namespace PartialDigest

/-- A digest of which no part has arrived. -/
def begin : Algorithm → PartialDigest
  | .md5 => .md5 Digest.MD5.construction.begin
  | .sha1 => .sha1 Digest.SHA1.construction.begin
  | .sha256 => .sha256 Digest.SHA256.construction.begin

def update : PartialDigest → Bytes → PartialDigest
  | .md5 running, part => .md5 (Digest.MD5.construction.update running part)
  | .sha1 running, part => .sha1 (Digest.SHA1.construction.update running part)
  | .sha256 running, part =>
      .sha256 (Digest.SHA256.construction.update running part)

/-- The digest of all parts in order. -/
def finish : PartialDigest → Bytes
  | .md5 running => Digest.MD5.construction.finish running
  | .sha1 running => Digest.SHA1.construction.finish running
  | .sha256 running => Digest.SHA256.construction.finish running

end PartialDigest

end ResumableUpload
