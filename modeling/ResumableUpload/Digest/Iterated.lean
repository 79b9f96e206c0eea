import ResumableUpload.Bytes
/-!
# Iterated digests

MD5, SHA-1 and SHA-256 share one construction: the message is followed by the
byte `0x80`, zeros and its length in bits, and a compression step absorbs the
result in blocks of sixty-four bytes.  This module states the construction
once for any compression step, and feeds it byte by byte, so that a digest
does not depend on how the message arrives.
-/

namespace ResumableUpload.Digest

/-- The number of bytes a compression step absorbs at once. -/
def blockSize : Nat := 64

/-- What tells one iterated digest from another. -/
structure Construction (σ : Type) where
  start : σ
  /-- Absorbs one block of sixty-four bytes. -/
  compress : σ → Array UInt8 → σ
  /-- The eight bytes that stand for the length of the message in bits. -/
  lengthBytes : Nat → Bytes
  output : σ → Bytes

/-- A digest under way: the blocks absorbed so far and what is left over. -/
structure Running (σ : Type) where
  state : σ
  /-- The bytes of the block that is not yet full. -/
  pending : Array UInt8 := #[]
  total : Nat := 0

namespace Construction

variable {σ : Type}

/-- A digest of which nothing has arrived. -/
def begin (construction : Construction σ) : Running σ :=
  { state := construction.start }

/-- One byte more in the current block; a full block is absorbed. -/
def pushByte (construction : Construction σ) (running : Running σ)
    (byte : UInt8) : Running σ :=
  let pending := running.pending.push byte
  if pending.size < blockSize then { running with pending := pending }
  else
    { running with
      state := construction.compress running.state pending
      pending := #[] }

def update (construction : Construction σ) (running : Running σ)
    (bytes : Bytes) : Running σ :=
  let absorbed := bytes.foldl construction.pushByte running
  { absorbed with total := running.total + bytes.length }

/-- The bytes that follow a message of `total` bytes and fill its last block. -/
def padding (construction : Construction σ) (total : Nat) : Bytes :=
  0x80 :: List.replicate ((119 - total % blockSize) % blockSize) 0
    ++ construction.lengthBytes (8 * total)

/-- The digest of everything that has arrived. -/
def finish (construction : Construction σ) (running : Running σ) : Bytes :=
  let padded :=
    (construction.padding running.total).foldl construction.pushByte running
  construction.output padded.state

def digest (construction : Construction σ) (message : Bytes) : Bytes :=
  construction.finish (construction.update construction.begin message)

end Construction

/-- A word as four bytes, most significant first. -/
def bigEndian (word : UInt32) : Bytes :=
  [(word >>> 24).toUInt8, (word >>> 16).toUInt8, (word >>> 8).toUInt8,
    word.toUInt8]

/-- A word as four bytes, least significant first. -/
def littleEndian (word : UInt32) : Bytes :=
  (bigEndian word).reverse

/-- A number as eight bytes, most significant first, modulo `2 ^ 64`. -/
def bigEndianLength (bits : Nat) : Bytes :=
  bigEndian (UInt32.ofNat (bits / 4294967296)) ++ bigEndian (UInt32.ofNat bits)

/-- The word that four bytes of a block form, most significant first. -/
def wordAt (block : Array UInt8) (index : Nat) : UInt32 :=
  let byte offset := (block.getD (4 * index + offset) 0).toUInt32
  (byte 0 <<< 24) ||| (byte 1 <<< 16) ||| (byte 2 <<< 8) ||| byte 3

/-- The word that four bytes of a block form, least significant first. -/
def wordAtReversed (block : Array UInt8) (index : Nat) : UInt32 :=
  let byte offset := (block.getD (4 * index + offset) 0).toUInt32
  (byte 3 <<< 24) ||| (byte 2 <<< 16) ||| (byte 1 <<< 8) ||| byte 0

/-- A word turned left by a number of bits between one and thirty-one. -/
def rotateLeft (word : UInt32) (count : UInt32) : UInt32 :=
  (word <<< count) ||| (word >>> (32 - count))

/-- A word turned right by a number of bits between one and thirty-one. -/
def rotateRight (word : UInt32) (count : UInt32) : UInt32 :=
  (word >>> count) ||| (word <<< (32 - count))

end ResumableUpload.Digest
