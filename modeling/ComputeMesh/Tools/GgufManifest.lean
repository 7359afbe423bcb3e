import ComputeMesh.Lib.ByteReader
import ComputeMesh.Lib.Dict
import ComputeMesh.Lib.Text

/-!
# The GGUF metadata parser

`_Reader`, `_validate_split_metadata` and `inspect_gguf` of `tools/benchmark/gguf_manifest.py`, over the bytes of a
file.

* `FixedType` — the types of a fixed size, with what `struct.unpack` makes of their bytes;
* `scalar`, `skipValue` — reading a value and passing over one;
* `readMetadata` — the header and the entries;
* `inspectGguf` — all of it, with the checks of what was captured.
-/

namespace ComputeMesh.Tools

open ComputeMesh.Text

structure GGUFError where
  message : String
  deriving DecidableEq

abbrev GgufReader (α : Type) : Type := ByteReader GGUFError α

def ggufMagic : List UInt8 := [0x47, 0x47, 0x55, 0x46]
def ggufVersion : ℕ := 3
def maxMetadataKv : ℕ := 1000000
def maxKeyBytes : ℕ := 65535
def maxStringBytes : ℕ := 16 * 1024 * 1024
def maxArrayItems : ℕ := 2000000
def maxArrayDepth : ℕ := 8
def maxMetadataBytes : ℕ := 512 * 1024 * 1024

/-! ### Types -/

/-- The types of `FIXED_TYPES`. -/
inductive FixedType
  | uint8 | int8 | uint16 | int16 | uint32 | int32 | float32 | bool | uint64 | int64 | float64
  deriving DecidableEq

namespace FixedType

/-- The number of the type. -/
def typeId : FixedType → ℕ
  | uint8 => 0 | int8 => 1 | uint16 => 2 | int16 => 3 | uint32 => 4 | int32 => 5 | float32 => 6 | bool => 7
  | uint64 => 10 | int64 => 11 | float64 => 12

/-- Its size in bytes. -/
def size : FixedType → ℕ
  | uint8 | int8 | bool => 1
  | uint16 | int16 => 2
  | uint32 | int32 | float32 => 4
  | uint64 | int64 | float64 => 8

end FixedType

def typeString : ℕ := 8
def typeArray : ℕ := 9

/-- `FIXED_TYPES.get`. -/
def fixedType? (valueType : ℕ) : Option FixedType :=
  [FixedType.uint8, .int8, .uint16, .int16, .uint32, .int32, .float32, .bool, .uint64, .int64, .float64].find?
    fun t => decide (t.typeId = valueType)

/-- The Python values the parser captures; a float is its bits. -/
inductive PyValue
  | int (n : ℤ)
  | float (bits : ℕ)
  | bool (b : Bool)
  | str (text : String)
  deriving DecidableEq

/-- Two's complement in `size` bytes. -/
def signed (size n : ℕ) : ℤ := if 2 * n < 256 ^ size then n else (n : ℤ) - (256 ^ size : ℕ)

/-- `struct.unpack` with the format of the type; a boolean is read as the number `"B"`. -/
def FixedType.unpack (t : FixedType) (bytes : List UInt8) : PyValue :=
  match t with
  | uint8 | uint16 | uint32 | uint64 | bool => .int (ofLittleEndian bytes)
  | int8 | int16 | int32 | int64 => .int (signed t.size (ofLittleEndian bytes))
  | float32 | float64 => .float (ofLittleEndian bytes)

/-! ### The reader -/

/-- `_read`. -/
def readBytes (size : ℕ) : GgufReader (List UInt8) :=
  ByteReader.read ⟨"GGUF metadata is truncated or declares data beyond the file"⟩ size

/-- `skip`. -/
def skipBytes (size : ℕ) : GgufReader Unit :=
  ByteReader.skip ⟨"GGUF metadata value extends beyond the file"⟩ size

def raise {α : Type} (message : String) : GgufReader α := ByteReader.fail ⟨message⟩

def unpack (t : FixedType) : GgufReader PyValue := do
  let bytes ← readBytes t.size
  return t.unpack bytes

def u32 : GgufReader ℕ := do
  let bytes ← readBytes 4
  return ofLittleEndian bytes

def u64 : GgufReader ℕ := do
  let bytes ← readBytes 8
  return ofLittleEndian bytes

def string (key : Bool) : GgufReader String := do
  let length ← u64
  if (if key then maxKeyBytes else maxStringBytes) < length then
    raise ((if key then "metadata key" else "metadata string") ++ " exceeds bounded parser limit")
  else
    let raw ← readBytes length
    match String.fromUTF8? ⟨raw.toArray⟩ with
    | none => raise "GGUF metadata string is not valid UTF-8"
    | some value =>
      if key && raw.any (fun b => decide (128 ≤ b.toNat)) then raise "GGUF metadata key is not ASCII"
      else return value

def checkMetadataBudget (metadataStart : ℕ) : GgufReader Unit := do
  let pos ← ByteReader.tell
  if maxMetadataBytes < pos - metadataStart then raise "GGUF metadata area exceeds bounded parser limit"
  else return ()

def scalar (valueType : ℕ) : GgufReader PyValue :=
  if valueType = typeString then do
    let text ← string false
    return .str text
  else
    match fixedType? valueType with
    | none => raise "required GGUF metadata value is not a supported scalar"
    | some t => do
      let value ← unpack t
      if t = .bool then
        if value = .int 0 then return .bool false
        else if value = .int 1 then return .bool true
        else raise "GGUF boolean metadata must be encoded as 0 or 1"
      else return value

/-- `skip_value`, with the number of array levels that are left. -/
def skipValueFrom : ℕ → ℕ → GgufReader Unit
  | 0, _ => raise "GGUF metadata arrays exceed maximum nesting depth"
  | left + 1, valueType =>
    if valueType = typeString then do
      let length ← u64
      if maxStringBytes < length then raise "GGUF metadata string exceeds bounded parser limit"
      else skipBytes length
    else if valueType = typeArray then do
      let elementType ← u32
      let count ← u64
      if maxArrayItems < count then raise "GGUF metadata array exceeds bounded parser item limit"
      else
        match fixedType? elementType with
        | some t => skipBytes (count * t.size)
        | none =>
          if elementType ≠ typeString ∧ elementType ≠ typeArray then
            raise ("unknown GGUF metadata array element type " ++ toString elementType)
          else (skipValueFrom left elementType).times count
    else
      match fixedType? valueType with
      | none => raise ("unknown GGUF metadata value type " ++ toString valueType)
      | some t => skipBytes t.size

/-- `skip_value`, at `depth`. -/
def skipValue (valueType depth : ℕ) : GgufReader Unit := skipValueFrom (maxArrayDepth + 1 - depth) valueType

/-! ### The entries -/

def generalKeys : List String :=
  ["general.architecture", "general.name", "general.version", "general.license", "general.license.link",
   "general.file_type"]

def splitKeys : List String := ["split.no", "split.count", "split.tensors.count"]

/-- The keys whose values are read. -/
def interesting (key : String) : Bool :=
  generalKeys.contains key || splitKeys.contains key || endsWith key ".block_count"

/-- What the loop over the entries collects. -/
structure Captured where
  values : Dict String PyValue := .empty
  blockCounts : Dict String ℤ := .empty

/-- What the loop does with the value of an interesting key. -/
def Captured.keep (c : Captured) (key : String) (value : PyValue) : GgufReader Captured :=
  if endsWith key ".block_count" then
    match value with
    | .int n => return { c with blockCounts := c.blockCounts.set key n }
    | _ => raise (key ++ " must be an integer")
  else return { c with values := c.values.set key value }

/-- The value of an interesting key is read, any other is passed over. -/
def readValue (c : Captured) (key : String) (valueType : ℕ) : GgufReader Captured :=
  if interesting key then do
    let value ← scalar valueType
    c.keep key value
  else do
    skipValue valueType 0
    return c

/-- One turn of the loop. -/
def readEntry (metadataStart : ℕ) (c : Captured) : GgufReader Captured := do
  let key ← string true
  let valueType ← u32
  let c ← readValue c key valueType
  checkMetadataBudget metadataStart
  return c

def readEntries (metadataStart : ℕ) : ℕ → Captured → GgufReader Captured
  | 0, c => return c
  | n + 1, c => do
    let c ← readEntry metadataStart c
    readEntries metadataStart n c

/-- The part of `inspect_gguf` that reads the file: the number of tensors, the number of entries and what was
captured. -/
def readMetadata : GgufReader (ℕ × ℕ × Captured) := do
  let magic ← readBytes 4
  if magic ≠ ggufMagic then raise "file magic is not GGUF"
  else
    let version ← u32
    if version ≠ ggufVersion then
      raise ("unsupported GGUF version " ++ toString version
        ++ "; this bounded parser currently requires v" ++ toString ggufVersion)
    else
      let tensorCount ← u64
      let metadataCount ← u64
      if maxMetadataKv < metadataCount then raise "GGUF metadata key/value count exceeds bounded parser limit"
      else
        let start ← ByteReader.tell
        let captured ← readEntries start metadataCount {}
        return (tensorCount, metadataCount, captured)

/-! ### The checks -/

structure GGUFInfo where
  version : ℕ
  tensorCount : ℕ
  metadataKvCount : ℕ
  architecture : String
  blockCount : ℤ
  name : Option String
  modelVersion : Option String
  licenseId : Option String
  licenseSource : Option String
  fileType : Option ℤ
  splitNo : Option ℤ
  splitCount : Option ℤ
  splitTensorsCount : Option ℤ
  deriving DecidableEq

def ggufError {α : Type} (message : String) : Except GGUFError α := .error ⟨message⟩

def integerValue (captured : Dict String PyValue) (key : String) : Except GGUFError ℤ :=
  match captured.get? key with
  | some (.int n) => .ok n
  | _ => ggufError (key ++ " must be an integer")

/-- `_validate_split_metadata`; the order of a set is seen in the text of its error alone. -/
def validateSplitMetadata (captured : Dict String PyValue) (tensorCount : ℕ) :
    Except GGUFError (Option (ℤ × ℤ × ℤ)) :=
  if splitKeys.any captured.contains && !splitKeys.all captured.contains then
    ggufError ("GGUF split metadata is incomplete; split.no, split.count, and split.tensors.count must appear "
      ++ "together")
  else if !splitKeys.any captured.contains then .ok none
  else do
    let splitNo ← integerValue captured "split.no"
    let splitCount ← integerValue captured "split.count"
    let splitTensorsCount ← integerValue captured "split.tensors.count"
    if ¬ (1 ≤ splitCount ∧ splitCount ≤ 65535) then ggufError "split.count must be between 1 and 65535"
    else if ¬ (0 ≤ splitNo ∧ splitNo < splitCount) then
      ggufError "split.no must be zero-based and smaller than split.count"
    else if splitTensorsCount < 1 then ggufError "split.tensors.count must be positive"
    else if splitTensorsCount < tensorCount then
      ggufError "shard tensor_count cannot exceed split.tensors.count"
    else if splitCount = 1 ∧ (tensorCount : ℤ) ≠ splitTensorsCount then
      ggufError "single-split GGUF tensor_count must equal split.tensors.count"
    else .ok (some (splitNo, splitCount, splitTensorsCount))

/-- `re.fullmatch(r"[a-z0-9]+", architecture)`. -/
def isArchitecture (text : String) : Bool :=
  text ≠ "" && text.toList.all fun c => ('a' ≤ c && c ≤ 'z') || ('0' ≤ c && c ≤ '9')

def optionalString (captured : Dict String PyValue) (key : String) : Except GGUFError (Option String) :=
  match captured.get? key with
  | none => .ok none
  | some (.str text) =>
    if strip text = "" then ggufError (key ++ " must be a non-empty string when present")
    else .ok (some (strip text))
  | some _ => ggufError (key ++ " must be a non-empty string when present")

/-- What a shard other than the first is told when something of the model is missing. -/
def shardError {α : Type} (split : Option (ℤ × ℤ × ℤ)) (missing message : String) : Except GGUFError α :=
  match split with
  | some (splitNo, splitCount, _) =>
    if 0 < splitNo then
      ggufError ("GGUF split shard " ++ toString (splitNo + 1) ++ "/" ++ toString splitCount ++ " does not carry "
        ++ missing ++ "; inspect/build from the primary shard with split.no=0")
    else ggufError message
  | none => ggufError message

/-- `general.file_type`. -/
def fileTypeValue (captured : Dict String PyValue) : Except GGUFError (Option ℤ) :=
  match captured.get? "general.file_type" with
  | none => .ok none
  | some (.int n) => .ok (some n)
  | some _ => ggufError "general.file_type must be an integer when present"

/-- The architecture, if there is a valid one. -/
def architecture? (captured : Dict String PyValue) : Option String :=
  match captured.get? "general.architecture" with
  | some (.str text) => if isArchitecture text then some text else none
  | _ => none

/-- The part of `inspect_gguf` after the file is read. -/
def describe (tensorCount metadataCount : ℕ) (c : Captured) : Except GGUFError GGUFInfo := do
  let split ← validateSplitMetadata c.values tensorCount
  match architecture? c.values with
  | none => shardError split "full model metadata" "GGUF is missing a valid general.architecture"
  | some architecture =>
    let blockKey := architecture ++ ".block_count"
    match c.blockCounts.get? blockKey with
    | none => shardError split ("required " ++ blockKey) ("GGUF is missing required " ++ blockKey)
    | some blockCount =>
      if ¬ (2 ≤ blockCount ∧ blockCount ≤ 100000) then
        ggufError (blockKey ++ " must be between 2 and 100000 for the M1 manifest")
      else do
        let fileType ← fileTypeValue c.values
        let name ← optionalString c.values "general.name"
        let modelVersion ← optionalString c.values "general.version"
        let licenseId ← optionalString c.values "general.license"
        let licenseSource ← optionalString c.values "general.license.link"
        return {
          version := ggufVersion, tensorCount, metadataKvCount := metadataCount, architecture, blockCount, name,
          modelVersion, licenseId, licenseSource, fileType
          splitNo := split.map (·.1)
          splitCount := split.map (·.2.1)
          splitTensorsCount := split.map (·.2.2) }

/-- `inspect_gguf` on a file with these bytes: its answer, and how far the file was read. -/
def inspectGguf (file : List UInt8) : Except GGUFError GGUFInfo × ℕ :=
  if file.length < 24 then (ggufError "file is too small to be a GGUF v3 artifact", 0)
  else
    match readMetadata file 0 with
    | (.error e, pos) => (.error e, pos)
    | (.ok (tensorCount, metadataCount, captured), pos) => (describe tensorCount metadataCount captured, pos)

end ComputeMesh.Tools
