import DnsFilter.Text.Utf8
/-!
# Compressed files

The gzip format with its content in stored blocks.
-/
namespace DnsFilter.Gzip

def crcStep (crc : UInt32) : UInt32 :=
  if crc &&& 1 = 1 then (crc >>> 1) ^^^ 0xEDB88320 else crc >>> 1

def crcByte (crc : UInt32) (b : UInt8) : UInt32 :=
  Nat.repeat crcStep 8 (crc ^^^ b.toUInt32)

def crc (content : Bytes) : UInt32 := (content.foldl crcByte 0xFFFFFFFF) ^^^ 0xFFFFFFFF

def littleEndian (count n : Nat) : Bytes :=
  (List.range count).map (fun i => UInt8.ofNat (n / Nat.pow 256 i % 256))

def blockLimit : Nat := 65535

def block (isLast : Bool) (content : Bytes) : Bytes :=
  (if isLast then 1 else 0) ::
    (littleEndian 2 content.length ++ littleEndian 2 (blockLimit - content.length) ++ content)

def blocks (content : Bytes) : Bytes :=
  if _h : content.length ≤ blockLimit then block true content
  else block false (content.take blockLimit) ++ blocks (content.drop blockLimit)
termination_by content.length
decreasing_by simp only [List.length_drop, blockLimit] at *; omega

def header : Bytes := [0x1F, 0x8B, 8, 0, 0, 0, 0, 0, 0, 0xFF]

def encode (content : Bytes) : Bytes :=
  header ++ blocks content ++ littleEndian 4 (crc content).toNat ++ littleEndian 4 content.length

end DnsFilter.Gzip
