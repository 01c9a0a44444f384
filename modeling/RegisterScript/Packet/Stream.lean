import RegisterScript.Packet.Tag

/-!
# Packet streams

A stream is a sequence of packets with nothing between them.  Reading walks from tag to tag: a
tag says how many register entries follow it, and the next tag comes right behind them.  Only
streams of address-and-data pairs are understood.

The first thing that is wrong ends the walk, and nothing that was read before it is returned.

* `Packet.read`, one packet with the words behind its tag given.
* `readPackets`, the walk, on the words of a stream.
* `readStream`, the walk on bytes.
-/

namespace RegisterScript

/-- A tag with the writes behind it. -/
structure Packet where
  /-- The position of the tag in the stream, in bytes. -/
  offset : Nat
  tag : Tag
  /-- The primitive setting in the tag, present exactly if the tag says so. -/
  prim : Option Prim
  writes : List Write
  deriving DecidableEq, Repr

/-- Why a stream is not a sequence of packets.  Positions are in bytes. -/
inductive PacketError where
  /-- The stream does not consist of whole words. -/
  | partialWord (length : Nat)
  /-- The stream ends inside the packet whose tag is at `offset`. -/
  | truncated (offset : Nat)
  /-- The tag asks for another data format. -/
  | dataFormat (offset : Nat) (flg : Nat)
  /-- The primitive setting in the tag is none. -/
  | tagPrim (offset : Nat) (cause : DecodeError)
  /-- The tag's register list names something other than an address-and-data pair. -/
  | descriptor (offset : Nat) (value : Nat)
  /-- An address word belongs to no register. -/
  | unknownAddress (position : Nat) (address : UInt64)
  /-- A data word is no write to its register. -/
  | data (position : Nat) (cause : DecodeError)
  deriving DecidableEq, Repr

/-- The wording of a refused stream. -/
def PacketError.message : PacketError → String
  | partialWord length =>
    "stream length " ++ Text.decimal length ++ " is not a multiple of 8: truncated GIF packet"
  | truncated offset => "tag at byte 0x" ++ Text.hex offset ++ ": truncated GIF packet"
  | dataFormat offset flg =>
    "tag at byte 0x" ++ Text.hex offset ++ ": FLG " ++ Text.decimal flg ++ ": unsupported GIF tag"
  | tagPrim offset cause => "tag at byte 0x" ++ Text.hex offset ++ ": " ++ cause.message
  | descriptor offset value =>
    "tag at byte 0x" ++ Text.hex offset ++ ": register descriptor 0x" ++ Text.hex value
      ++ ": unsupported GIF tag"
  | unknownAddress position address =>
    "byte 0x" ++ Text.hex position ++ ": unknown register address 0x" ++ Text.hex address.toNat
  | data position cause => "byte 0x" ++ Text.hex position ++ ": " ++ cause.message

/-- The register that an address word names; the whole word has to be the address. -/
def Register.ofAddressWord? (word : UInt64) : Option Register :=
  if word.toNat ≤ 0xFF then Register.ofAddress? (UInt8.ofNat word.toNat) else none

/-- Reads `count` entries behind the entries `read` (newest first).  `tag` is at byte `offset`,
`index` counts the entries already read, and `position` is where `words` starts, in bytes. -/
def readEntries (tag : Tag) (offset : Nat) :
    (count index position : Nat) → List Write → List UInt64 → Except PacketError (List Write)
  | 0, _, _, read, _ => .ok read.reverse
  | count + 1, index, position, read, words =>
    let descriptor := tag.descriptor (index % tag.regCount)
    if descriptor ≠ Tag.addressData then .error (.descriptor offset descriptor)
    else match words with
      | data :: address :: rest =>
        match Register.ofAddressWord? address with
        | none => .error (.unknownAddress (position + 8) address)
        | some r =>
          match r.decode data with
          | .error cause => .error (.data position cause)
          | .ok w => readEntries tag offset count (index + 1) (position + 16) (w :: read) rest
      | _ => .error (.truncated offset)

/-- The primitive setting in a tag, if the tag says that there is one. -/
def Tag.decodePrim (t : Tag) (offset : Nat) : Except PacketError (Option Prim) :=
  if t.pre then
    match Prim.decode t.prim.toNat with
    | .ok p => .ok (some p)
    | .error cause => .error (.tagPrim offset cause)
  else .ok none

/-- The packet with tag `tag` at byte `offset`, `body` being the words behind the tag. -/
def Packet.read (offset : Nat) (tag : Tag) (body : List UInt64) : Except PacketError Packet :=
  if tag.flg ≠ Tag.packed then .error (.dataFormat offset tag.flg.toNat)
  else
    match tag.decodePrim offset with
    | .error cause => .error cause
    | .ok prim =>
      match readEntries tag offset tag.entryCount 0 (offset + 16) [] body with
      | .error cause => .error cause
      | .ok writes => .ok ⟨offset, tag, prim, writes⟩

/-- Reads the packets of `words`, which start at byte `offset`, behind the packets `read` (newest
first). -/
def readPacketsFrom (read : List Packet) (offset : Nat) :
    List UInt64 → Except PacketError (List Packet)
  | [] => .ok read.reverse
  | [_] => .error (.truncated offset)
  | lo :: hi :: body =>
    let tag := Tag.unpack lo hi
    match Packet.read offset tag body with
    | .error cause => .error cause
    | .ok packet =>
      readPacketsFrom (packet :: read) (offset + 16 + 16 * tag.entryCount)
        (body.drop (2 * tag.entryCount))
termination_by words => words.length
decreasing_by
  simp only [List.length_drop, List.length_cons]; omega

/-- The packets of a word list. -/
def readPackets (words : List UInt64) : Except PacketError (List Packet) :=
  readPacketsFrom [] 0 words

/-- The words of a byte stream, lowest byte first. -/
def readWords (bytes : Bytes) : Except PacketError (List UInt64) :=
  if bytes.length % 8 = 0 then .ok (wordsFrom [] bytes) else .error (.partialWord bytes.length)

/-- The packets of a byte stream. -/
def readStream (bytes : Bytes) : Except PacketError (List Packet) := do
  readPackets (← readWords bytes)

end RegisterScript
