import ComputeMesh.Lib.Checks
import ComputeMesh.Tools.GgufFormat

/-!
# The GGUF parser reads the format

* `confined_readMetadata` — the parser never goes past the end of a file;
* `skipValue_of_scalar` — on any bytes, what is read is passed over;
* `Describes` — what a list of entries says about a model, as the parser's result;
* `describe_eq_ok_iff` — the checks of the parser;
* `inspect_reads_exactly` — **the parser reads exactly the format, and stays within every file.**
-/

namespace ComputeMesh.Tools

open ComputeMesh.Text ByteReader List

/-! ### Staying in the file -/

theorem confined_readBytes (size : ℕ) : (readBytes size).Confined := confined_read _ size

theorem confined_skipBytes (size : ℕ) : (skipBytes size).Confined := confined_skip _ size

variable {α : Type}

theorem confined_raise (message : String) : (raise message : GgufReader α).Confined :=
  confined_fail _

theorem confined_u32 : u32.Confined := (confined_readBytes 4).bind fun _ => confined_pure _

theorem confined_u64 : u64.Confined := (confined_readBytes 8).bind fun _ => confined_pure _

theorem confined_unpack (t : FixedType) : (unpack t).Confined :=
  (confined_readBytes _).bind fun _ => confined_pure _

theorem confined_ite {p : Prop} [Decidable p] {first second : GgufReader α} (hfirst : first.Confined)
    (hsecond : second.Confined) : (if p then first else second).Confined := by
  split
  · exact hfirst
  · exact hsecond

theorem confined_string (key : Bool) : (string key).Confined := by
  refine confined_u64.bind fun length => confined_ite (confined_raise _) ((confined_readBytes _).bind fun raw => ?_)
  split
  · exact confined_raise _
  · exact confined_ite (confined_raise _) (confined_pure _)

theorem confined_scalar (valueType : ℕ) : (scalar valueType).Confined := by
  refine confined_ite ((confined_string _).bind fun _ => confined_pure _) ?_
  split
  · exact confined_raise _
  · refine (confined_unpack _).bind fun value => confined_ite (confined_ite (confined_pure _) ?_) ?_
    · exact confined_ite (confined_pure _) (confined_raise _)
    · exact confined_pure _

theorem confined_skipValueFrom (left valueType : ℕ) : (skipValueFrom left valueType).Confined := by
  induction left generalizing valueType with
  | zero => exact confined_raise _
  | succ left ih =>
    unfold skipValueFrom
    refine confined_ite (confined_u64.bind fun _ => confined_ite (confined_raise _) (confined_skipBytes _)) ?_
    refine confined_ite (confined_u32.bind fun elementType => confined_u64.bind fun count => ?_) ?_
    · refine confined_ite (confined_raise _) ?_
      split
      · exact confined_skipBytes _
      · exact confined_ite (confined_raise _) ((ih elementType).times count)
    · split
      · exact confined_raise _
      · exact confined_skipBytes _

theorem confined_keep (c : Captured) (key : String) (value : PyValue) : (c.keep key value).Confined := by
  refine confined_ite ?_ (confined_pure _)
  split
  · exact confined_pure _
  · exact confined_raise _

theorem confined_readEntry (metadataStart : ℕ) (c : Captured) : (readEntry metadataStart c).Confined := by
  refine (confined_string true).bind fun key => confined_u32.bind fun valueType => ?_
  have hvalue : (readValue c key valueType).Confined :=
    confined_ite ((confined_scalar _).bind fun _ => confined_keep _ _ _)
      ((confined_skipValueFrom _ _).bind fun _ => confined_pure _)
  have hbudget : (checkMetadataBudget metadataStart).Confined :=
    confined_tell.bind fun _ => confined_ite (confined_raise _) (confined_pure _)
  exact hvalue.bind fun c => hbudget.bind fun _ => confined_pure _

theorem confined_readEntries (metadataStart n : ℕ) (c : Captured) : (readEntries metadataStart n c).Confined := by
  induction n generalizing c with
  | zero => exact confined_pure c
  | succ n ih => exact (confined_readEntry _ _).bind fun c => ih c

/-- **The parser stays within the file.** -/
theorem confined_readMetadata : readMetadata.Confined := by
  refine (confined_readBytes 4).bind fun _ => confined_ite (confined_raise _) (confined_u32.bind fun _ => ?_)
  refine confined_ite (confined_raise _) (confined_u64.bind fun _ => confined_u64.bind fun _ => ?_)
  refine confined_ite (confined_raise _) (confined_tell.bind fun _ => ?_)
  exact (confined_readEntries _ _ _).bind fun _ => confined_pure _

theorem inspectGguf_within (file : List UInt8) : (inspectGguf file).2 ≤ file.length := by
  unfold inspectGguf
  split
  · exact Nat.zero_le _
  · have hread := (confined_readMetadata file 0 (Nat.zero_le _)).2
    generalize readMetadata file 0 = r at hread
    obtain ⟨result, pos⟩ := r
    cases result <;> exact hread

/-! ### What is read is passed over -/

variable {file : List UInt8}

theorem skipBytes_of_readBytes {size : ℕ} {bytes : List UInt8} {pos pos' : ℕ}
    (h : readBytes size file pos = (.ok bytes, pos')) : skipBytes size file pos = (.ok (), pos') := by
  unfold readBytes ByteReader.read at h
  unfold skipBytes ByteReader.skip
  by_cases hroom : file.length < pos + size
  · rw [if_pos hroom] at h
    cases h
  · rw [if_neg hroom] at h
    rw [if_neg hroom]
    cases h
    rfl

theorem of_ite_raise {p : Prop} [Decidable p] {message : String} {rest : GgufReader α}
    {pos pos' : ℕ} {a : α} (h : (if p then raise message else rest) file pos = (.ok a, pos')) :
    ¬ p ∧ rest file pos = (.ok a, pos') := by
  by_cases hp : p
  · rw [if_pos hp] at h
    cases h
  · rw [if_neg hp] at h
    exact ⟨hp, h⟩

theorem skip_of_string {pos pos' : ℕ} {text : String} (h : string false file pos = (.ok text, pos'))
    (left : ℕ) : skipValueFrom (left + 1) typeString file pos = (.ok (), pos') := by
  obtain ⟨length, afterLength, hlength, h⟩ := ByteReader.bind_eq_ok_iff.mp h
  obtain ⟨hlimit, h⟩ := of_ite_raise h
  have hlimit : ¬ maxStringBytes < length := hlimit
  obtain ⟨raw, afterRaw, hraw, h⟩ := ByteReader.bind_eq_ok_iff.mp h
  have hend : afterRaw = pos' := by
    cases hdecoded : String.fromUTF8? ⟨raw.toArray⟩ with
    | none =>
      rw [hdecoded] at h
      cases h
    | some value =>
      rw [hdecoded] at h
      exact (ByteReader.pure_eq_ok_iff.mp (of_ite_raise h).2).2
  unfold skipValueFrom
  rw [if_pos rfl]
  refine ByteReader.bind_eq_ok_iff.mpr ⟨length, afterLength, hlength, ?_⟩
  rw [if_neg hlimit, ← hend]
  exact skipBytes_of_readBytes hraw

/-- **Reading a value and passing over it agree**, whatever the file holds. -/
theorem skipValue_of_scalar {valueType : ℕ} {pos pos' : ℕ} {value : PyValue}
    (h : scalar valueType file pos = (.ok value, pos')) : skipValue valueType 0 file pos = (.ok (), pos') := by
  unfold scalar at h
  by_cases hstring : valueType = typeString
  · rw [if_pos hstring] at h
    obtain ⟨text, mid, htext, h⟩ := ByteReader.bind_eq_ok_iff.mp h
    rw [hstring, ← (ByteReader.pure_eq_ok_iff.mp h).2]
    exact skip_of_string htext maxArrayDepth
  · rw [if_neg hstring] at h
    cases htype : fixedType? valueType with
    | none =>
      rw [htype] at h
      cases h
    | some t =>
      rw [htype] at h
      obtain ⟨read, mid, hread, h⟩ := ByteReader.bind_eq_ok_iff.mp h
      have hend : mid = pos' := by
        by_cases hbool : t = .bool
        · rw [if_pos hbool] at h
          by_cases hzero : read = .int 0
          · rw [if_pos hzero] at h
            exact (ByteReader.pure_eq_ok_iff.mp h).2
          · by_cases hone : read = .int 1
            · rw [if_neg hzero, if_pos hone] at h
              exact (ByteReader.pure_eq_ok_iff.mp h).2
            · rw [if_neg hzero, if_neg hone] at h
              cases h
        · rw [if_neg hbool] at h
          exact (ByteReader.pure_eq_ok_iff.mp h).2
      obtain ⟨raw, mid', hraw, hunpack⟩ := ByteReader.bind_eq_ok_iff.mp hread
      have harray : valueType ≠ typeArray := by
        rintro rfl
        cases htype
      rw [← hend, ← (ByteReader.pure_eq_ok_iff.mp hunpack).2]
      show skipValueFrom (maxArrayDepth + 1) valueType file pos = _
      rw [skipValueFrom, if_neg hstring, if_neg harray, htype]
      exact skipBytes_of_readBytes hraw

/-! ### What was captured -/

def lookup (entries : List GgufEntry) (key : String) : Option GgufValue :=
  (entries.find? fun e => decide (e.key = key)).map GgufEntry.value

/-- The value under a key, in Python. -/
def field (entries : List GgufEntry) (key : String) : Option PyValue := (lookup entries key).bind GgufValue.python

def integerField (entries : List GgufEntry) (key : String) : Option ℤ := (lookup entries key).bind GgufValue.integer

theorem lookup_cons (e : GgufEntry) (entries : List GgufEntry) (key : String) :
    lookup (e :: entries) key = if e.key = key then some e.value else lookup entries key := by
  unfold lookup
  by_cases hkey : e.key = key
  · rw [find?_cons_of_pos (by simpa using hkey), if_pos hkey]
    rfl
  · rw [find?_cons_of_neg (by simpa using hkey), if_neg hkey]

variable {entries : List GgufEntry} {key : String}

theorem lookup_of_notMem (h : key ∉ entries.map GgufEntry.key) : lookup entries key = none := by
  induction entries with
  | nil => rfl
  | cons e rest ih =>
    rw [map_cons, mem_cons, not_or] at h
    rw [lookup_cons, if_neg (Ne.symm h.1), ih h.2]

theorem values_add (c : Captured) (e : GgufEntry) (hread : interesting key = true)
    (hblock : endsWith key ".block_count" = false) :
    (c.add e).values.get? key = ((if e.key = key then some e.value else none).bind GgufValue.python).or
      (c.values.get? key) := by
  unfold Captured.add
  by_cases hkey : e.key = key
  · rw [if_pos hkey, hkey, hblock, if_neg (by decide), if_pos hread, Option.bind_some]
    cases e.value.python with
    | none => rw [Option.none_or]
    | some v => rw [Option.some_or, Dict.get?_set_self]
  · rw [if_neg hkey, Option.bind_none, Option.none_or]
    split
    · cases e.value.integer <;> rfl
    · split
      · cases e.value.python with
        | none => rfl
        | some v => exact Dict.get?_set_of_ne _ (Ne.symm hkey) v
      · rfl

theorem blockCounts_add (c : Captured) (e : GgufEntry) (hblock : endsWith key ".block_count" = true) :
    (c.add e).blockCounts.get? key = ((if e.key = key then some e.value else none).bind GgufValue.integer).or
      (c.blockCounts.get? key) := by
  unfold Captured.add
  by_cases hkey : e.key = key
  · rw [if_pos hkey, hkey, if_pos hblock, Option.bind_some]
    cases e.value.integer with
    | none => rw [Option.none_or]
    | some n => rw [Option.some_or, Dict.get?_set_self]
  · rw [if_neg hkey, Option.bind_none, Option.none_or]
    split
    · cases e.value.integer with
      | none => rfl
      | some n => exact Dict.get?_set_of_ne _ (Ne.symm hkey) n
    · split
      · cases e.value.python <;> rfl
      · rfl

theorem collected_of_nodup {β : Type} (get : Captured → Option β) {read : GgufValue → Option β}
    (hadd : ∀ c e, get (c.add e) = ((if e.key = key then some e.value else none).bind read).or (get c))
    (hnodup : (entries.map GgufEntry.key).Nodup) (c : Captured) :
    get (entries.foldl .add c) = ((lookup entries key).bind read).or (get c) := by
  induction entries generalizing c with
  | nil => rfl
  | cons e rest ih =>
    rw [map_cons, nodup_cons] at hnodup
    rw [foldl_cons, ih hnodup.2, hadd, lookup_cons]
    by_cases hkey : e.key = key
    · rw [if_pos hkey, if_pos hkey, lookup_of_notMem (hkey ▸ hnodup.1), Option.bind_none, Option.none_or]
    · rw [if_neg hkey, if_neg hkey, Option.bind_none, Option.none_or]

/-- **What was captured under a key** is the value of the entry with this key. -/
theorem values_foldl (hnodup : (entries.map GgufEntry.key).Nodup)
    (hread : interesting key = true) (hblock : endsWith key ".block_count" = false) :
    (entries.foldl .add ({} : Captured)).values.get? key = field entries key := by
  have hall := collected_of_nodup (fun c => c.values.get? key) (fun c e => values_add c e hread hblock) hnodup {}
  dsimp only at hall
  rw [hall, Dict.get?_empty, Option.or_none]
  rfl

theorem blockCounts_foldl (hnodup : (entries.map GgufEntry.key).Nodup) (hblock : endsWith key ".block_count" = true) :
    (entries.foldl .add ({} : Captured)).blockCounts.get? key = integerField entries key := by
  have hall := collected_of_nodup (fun c => c.blockCounts.get? key) (fun c e => blockCounts_add c e hblock) hnodup {}
  dsimp only at hall
  rw [hall, Dict.get?_empty, Option.or_none]
  rfl

/-! ### What the entries say -/

/-- An optional text is absent, or a text that is not blank, without the blanks around it. -/
def TextField (value : Option PyValue) (text : Option String) : Prop :=
  (value = none ∧ text = none) ∨ ∃ s, value = some (.str s) ∧ strip s ≠ "" ∧ text = some (strip s)

/-- The place of a shard among the shards: all three numbers are absent, or they fit together. -/
def SplitFields (value : String → Option PyValue) (tensorCount : ℕ) (split : Option (ℤ × ℤ × ℤ)) : Prop :=
  ((∀ key ∈ splitKeys, value key = none) ∧ split = none) ∨ ∃ splitNo splitCount splitTensorsCount : ℤ,
      value "split.no" = some (.int splitNo) ∧ value "split.count" = some (.int splitCount) ∧
        value "split.tensors.count" = some (.int splitTensorsCount) ∧ (1 ≤ splitCount ∧ splitCount ≤ 65535) ∧
        (0 ≤ splitNo ∧ splitNo < splitCount) ∧ 1 ≤ splitTensorsCount ∧ (tensorCount : ℤ) ≤ splitTensorsCount ∧
        (splitCount = 1 → (tensorCount : ℤ) = splitTensorsCount) ∧
        split = some (splitNo, splitCount, splitTensorsCount)

/-- What the values under the keys, the numbers of blocks among them, say about a model. -/
structure Describes (value : String → Option PyValue) (blocks : String → Option ℤ) (tensors count : ℕ)
    (info : GGUFInfo) : Prop where
  version : info.version = ggufVersion
  tensorCount : info.tensorCount = tensors
  metadataKvCount : info.metadataKvCount = count
  architecture : value "general.architecture" = some (.str info.architecture)
  named : isArchitecture info.architecture = true
  blockCount : blocks (info.architecture ++ ".block_count") = some info.blockCount
  blockRange : 2 ≤ info.blockCount ∧ info.blockCount ≤ 100000
  name : TextField (value "general.name") info.name
  modelVersion : TextField (value "general.version") info.modelVersion
  licenseId : TextField (value "general.license") info.licenseId
  licenseSource : TextField (value "general.license.link") info.licenseSource
  fileType : value "general.file_type" = info.fileType.map .int
  split : ∃ split, SplitFields value tensors split ∧ info.splitNo = split.map (·.1) ∧
    info.splitCount = split.map (·.2.1) ∧ info.splitTensorsCount = split.map (·.2.2)

/-! ### The checks -/

variable {captured : Dict String PyValue}

theorem optionalString_eq_ok_iff {text : Option String} :
    optionalString captured key = .ok text ↔ TextField (captured.get? key) text := by
  unfold optionalString
  cases captured.get? key with
  | none =>
    constructor
    · intro h
      cases h
      exact .inl ⟨rfl, rfl⟩
    · rintro (⟨-, rfl⟩ | ⟨s, h, -⟩)
      · rfl
      · cases h
  | some v =>
    cases v with
    | str s =>
      dsimp only
      constructor
      · intro h
        obtain ⟨hblank, h⟩ := ite_error_eq_ok_iff.mp h
        cases h
        exact .inr ⟨s, rfl, hblank, rfl⟩
      · rintro (⟨h, -⟩ | ⟨s', h, hblank, rfl⟩)
        · cases h
        · cases h
          exact if_neg hblank
    | int _ | float _ | bool _ =>
      constructor
      · intro h
        cases h
      · rintro (⟨h, -⟩ | ⟨_, h, -⟩) <;> cases h

theorem fileTypeValue_eq_ok_iff {fileType : Option ℤ} :
    fileTypeValue captured = .ok fileType ↔ captured.get? "general.file_type" = fileType.map .int := by
  unfold fileTypeValue
  cases captured.get? "general.file_type" with
  | none => cases fileType <;> simp
  | some v => cases v <;> cases fileType <;> simp [ggufError]

theorem integerValue_eq_ok_iff {n : ℤ} : integerValue captured key = .ok n ↔ captured.get? key = some (.int n) := by
  unfold integerValue
  cases captured.get? key with
  | none => simp [ggufError]
  | some v => cases v <;> simp [ggufError]

theorem architecture?_eq_some_iff {text : String} : architecture? captured = some text
      ↔ captured.get? "general.architecture" = some (.str text) ∧ isArchitecture text = true := by
  unfold architecture?
  cases captured.get? "general.architecture" with
  | none => simp
  | some v =>
    cases v with
    | str s =>
      by_cases hs : isArchitecture s = true
      · simp only [hs, if_true, Option.some.injEq, PyValue.str.injEq]
        constructor
        · rintro rfl
          exact ⟨rfl, hs⟩
        · exact fun h => h.1
      · simp only [hs, Option.some.injEq, PyValue.str.injEq]
        constructor
        · intro h
          cases h
        · rintro ⟨rfl, h⟩
          exact absurd h hs
    | int n | float bits | bool b => simp

theorem shardError_ne_ok {split : Option (ℤ × ℤ × ℤ)} {missing message : String} {a : α} :
    shardError split missing message ≠ .ok a := by
  unfold shardError ggufError
  cases split with
  | none => exact nofun
  | some numbers =>
    obtain ⟨splitNo, splitCount, _⟩ := numbers
    dsimp only
    split <;> exact nofun

theorem any_splitKeys_eq_false (h : ∀ key ∈ splitKeys, captured.get? key = none) :
    splitKeys.any captured.contains = false := by
  rw [any_eq_false]
  intro key hkey
  rw [Dict.contains, h key hkey]
  decide

theorem splitKeys_cases (captured : Dict String PyValue) : (∀ key ∈ splitKeys, captured.get? key = none) ∨
      (splitKeys.any captured.contains = true ∧ ∀ key ∈ splitKeys, (captured.get? key).isSome = true) ∨
      (splitKeys.any captured.contains = true ∧ ∃ key ∈ splitKeys, captured.get? key = none) := by
  by_cases hany : splitKeys.any captured.contains = true
  · by_cases hall : ∀ key ∈ splitKeys, (captured.get? key).isSome = true
    · exact .inr (.inl ⟨hany, hall⟩)
    · obtain ⟨key, hall⟩ := not_forall.mp hall
      obtain ⟨hkey, habsent⟩ := Classical.not_imp.mp hall
      exact .inr (.inr ⟨hany, key, hkey, Option.not_isSome_iff_eq_none.mp habsent⟩)
  · rw [Bool.not_eq_true, any_eq_false] at hany
    exact .inl fun key hkey => Option.not_isSome_iff_eq_none.mp (hany key hkey)

variable {tensorCount : ℕ}

theorem validateSplitMetadata_eq_ok_iff {split : Option (ℤ × ℤ × ℤ)} :
    validateSplitMetadata captured tensorCount = .ok split ↔ SplitFields captured.get? tensorCount split := by
  unfold validateSplitMetadata
  rw [ggufError, ite_error_eq_ok_iff]
  rcases splitKeys_cases captured with hnone | ⟨hany, hall⟩ | ⟨hany, key, hkey, habsent⟩
  · rw [any_splitKeys_eq_false hnone, if_pos (show (!false) = true from rfl)]
    constructor
    · rintro ⟨-, h⟩
      cases h
      exact .inl ⟨hnone, rfl⟩
    · rintro (⟨-, rfl⟩ | ⟨splitNo, _, _, h, _⟩)
      · exact ⟨Bool.false_ne_true, rfl⟩
      · rw [hnone "split.no" (by decide)] at h
        cases h
  · have hcontains : splitKeys.all captured.contains = true := all_eq_true.mpr hall
    rw [hany, hcontains, if_neg (show ¬ (!true) = true from by decide)]
    simp only [bind_eq_ok_iff, integerValue_eq_ok_iff, ggufError, ite_error_eq_ok_iff, not_not]
    constructor
    · rintro ⟨-, splitNo, hno, splitCount, hcount, tensors, htensors, hrange, hplace, hpositive, hle, hsingle, h⟩
      cases h
      exact .inr ⟨splitNo, splitCount, tensors, hno, hcount, htensors, hrange, hplace, by omega, by omega,
        fun hone => by_contra fun hne => hsingle ⟨hone, hne⟩, rfl⟩
    · rintro (⟨hnone, -⟩ | ⟨splitNo, splitCount, tensors, hno, hcount, htensors, hrange, hplace, hpositive, hle, hsingle,
        rfl⟩)
      · have habsent := hall "split.no" (by decide)
        rw [hnone "split.no" (by decide)] at habsent
        cases habsent
      · exact ⟨by decide, splitNo, hno, splitCount, hcount, tensors, htensors, hrange, hplace, by omega, by omega,
          fun h => h.2 (hsingle h.1), rfl⟩
  · have hmissing : splitKeys.all captured.contains = false := by
      refine all_eq_false.mpr ⟨key, hkey, ?_⟩
      rw [Dict.contains, habsent]
      decide
    rw [hany, hmissing]
    constructor
    · rintro ⟨h, -⟩
      exact absurd rfl h
    · rintro (⟨hnone, -⟩ | ⟨splitNo, splitCount, tensors, hno, hcount, htensors, _⟩)
      · rw [any_splitKeys_eq_false hnone] at hany
        cases hany
      · rcases mem_cons.mp hkey with rfl | hkey
        · rw [hno] at habsent
          cases habsent
        · rcases mem_cons.mp hkey with rfl | hkey
          · rw [hcount] at habsent
            cases habsent
          · rw [mem_singleton.mp hkey, htensors] at habsent
            cases habsent

/-- **The checks**: the answer is what the captured values say. -/
theorem describe_eq_ok_iff {metadataCount : ℕ} {c : Captured} {info : GGUFInfo} :
    describe tensorCount metadataCount c = .ok info
      ↔ Describes c.values.get? c.blockCounts.get? tensorCount metadataCount info := by
  unfold describe
  rw [bind_eq_ok_iff]
  constructor
  · rintro ⟨split, hsplit, h⟩
    cases harchitecture : architecture? c.values with
    | none =>
      rw [harchitecture] at h
      exact absurd h shardError_ne_ok
    | some architecture =>
      rw [harchitecture] at h
      dsimp only at h
      cases hblocks : c.blockCounts.get? (architecture ++ ".block_count") with
      | none =>
        rw [hblocks] at h
        exact absurd h shardError_ne_ok
      | some blockCount =>
        rw [hblocks] at h
        dsimp only at h
        simp only [bind_eq_ok_iff, ggufError, ite_error_eq_ok_iff, not_not] at h
        obtain ⟨hrange, fileType, hfile, name, hname, version, hversion, license, hlicense, source, hsource, h⟩ := h
        cases h
        obtain ⟨hvalue, hnamed⟩ := architecture?_eq_some_iff.mp harchitecture
        exact {
          version := rfl
          tensorCount := rfl
          metadataKvCount := rfl
          architecture := hvalue
          named := hnamed
          blockCount := hblocks
          blockRange := hrange
          name := optionalString_eq_ok_iff.mp hname
          modelVersion := optionalString_eq_ok_iff.mp hversion
          licenseId := optionalString_eq_ok_iff.mp hlicense
          licenseSource := optionalString_eq_ok_iff.mp hsource
          fileType := fileTypeValue_eq_ok_iff.mp hfile
          split := ⟨split, validateSplitMetadata_eq_ok_iff.mp hsplit, rfl, rfl, rfl⟩ }
  · intro h
    obtain ⟨split, hsplit, hno, hcount, htensors⟩ := h.split
    refine ⟨split, validateSplitMetadata_eq_ok_iff.mpr hsplit, ?_⟩
    rw [architecture?_eq_some_iff.mpr ⟨h.architecture, h.named⟩]
    dsimp only
    rw [h.blockCount]
    dsimp only
    rw [if_neg (not_not.mpr h.blockRange), fileTypeValue_eq_ok_iff.mpr h.fileType,
      optionalString_eq_ok_iff.mpr h.name, optionalString_eq_ok_iff.mpr h.modelVersion,
      optionalString_eq_ok_iff.mpr h.licenseId, optionalString_eq_ok_iff.mpr h.licenseSource]
    obtain ⟨_, _, _, _, _, _, _, _, _, _, _, _, _⟩ := info
    cases h.version
    cases h.tensorCount
    cases h.metadataKvCount
    cases hno
    cases hcount
    cases htensors
    rfl

theorem Describes.congr {value value' : String → Option PyValue} {blocks blocks' : String → Option ℤ}
    {tensors count : ℕ} {info : GGUFInfo}
    (hvalue : ∀ key, interesting key = true → endsWith key ".block_count" = false → value key = value' key)
    (hblocks : ∀ key, endsWith key ".block_count" = true → blocks key = blocks' key)
    (h : Describes value blocks tensors count info) : Describes value' blocks' tensors count info := by
  have hread : ∀ key ∈ generalKeys ++ splitKeys, value key = value' key := by
    intro key hkey
    have hchecked : ∀ key ∈ generalKeys ++ splitKeys,
        interesting key = true ∧ endsWith key ".block_count" = false := by decide
    exact hvalue key (hchecked key hkey).1 (hchecked key hkey).2
  have hsuffix : endsWith (info.architecture ++ ".block_count") ".block_count" = true := by
    unfold endsWith
    rw [isSuffixOf_iff_suffix, String.toList_append]
    exact suffix_append _ _
  obtain ⟨split, hsplit, hparts⟩ := h.split
  have hsplit' : SplitFields value' tensors split := by
    rcases hsplit with ⟨hnone, rfl⟩ | ⟨splitNo, splitCount, splitTensorsCount, hno, hcount, htensors, hrest⟩
    · exact .inl ⟨fun key hkey => (hread key (mem_append_right _ hkey)).symm.trans (hnone key hkey), rfl⟩
    · exact .inr ⟨splitNo, splitCount, splitTensorsCount, (hread _ (by decide)).symm.trans hno,
        (hread _ (by decide)).symm.trans hcount, (hread _ (by decide)).symm.trans htensors, hrest⟩
  exact { h with
    architecture := (hread _ (by decide)).symm.trans h.architecture
    blockCount := (hblocks _ hsuffix).symm.trans h.blockCount
    name := hread "general.name" (by decide) ▸ h.name
    modelVersion := hread "general.version" (by decide) ▸ h.modelVersion
    licenseId := hread "general.license" (by decide) ▸ h.licenseId
    licenseSource := hread "general.license.link" (by decide) ▸ h.licenseSource
    fileType := (hread _ (by decide)).symm.trans h.fileType
    split := ⟨split, hsplit', hparts⟩ }

/-! ### The whole parser -/

/-- The list of entries is within the limits of the parser, and every value it reads is of a type it can read. -/
structure WithinLimits (tensorCount : ℕ) (entries : List GgufEntry) : Prop where
  tensors : tensorCount < 2 ^ 64
  count : entries.length ≤ maxMetadataKv
  nodup : (entries.map GgufEntry.key).Nodup
  fits : ∀ e ∈ entries, e.Fits
  readable : ∀ e ∈ entries, e.Readable
  bytes : (entries.flatMap GgufEntry.encode).length ≤ maxMetadataBytes

theorem readMetadata_consumes (h : WithinLimits tensorCount entries) :
    readMetadata.Consumes 0 (encodeFile tensorCount entries) (tensorCount, entries.length, entries.foldl .add {}) := by
  have hcount : entries.length < 256 ^ 8 := h.count.trans_lt (by decide)
  refine (readBytes_consumes rfl 0).bind ?_
  rw [if_neg (not_not.mpr rfl)]
  refine (u32_consumes (by decide) _).bind ?_
  rw [if_neg (not_not.mpr rfl)]
  refine (u64_consumes h.tensors _).bind ((u64_consumes hcount _).bind ?_)
  rw [if_neg (not_lt.mpr h.count)]
  refine (consumes_tell _).bind_nil ((readEntries_consumes h.fits h.readable {} ?_).bind_last ?_)
  · rw [Nat.add_sub_cancel_left]
    exact h.bytes
  · exact consumes_pure _ _

/-- **The round trip**: on the encoding of a list of entries, whatever follows it, the answer is what the entries
say. -/
theorem inspectGguf_encodeFile (h : WithinLimits tensorCount entries) (trailing : List UInt8) (info : GGUFInfo) :
    (inspectGguf (encodeFile tensorCount entries ++ trailing)).1 = .ok info
      ↔ Describes (field entries) (integerField entries) tensorCount entries.length info := by
  have hlength : ¬ (encodeFile tensorCount entries ++ trailing).length < 24 := by
    simp only [encodeFile, length_append, length_littleEndian, ggufMagic, length_cons, length_nil]
    omega
  unfold inspectGguf
  rw [if_neg hlength, (readMetadata_consumes h).run trailing]
  dsimp only
  rw [describe_eq_ok_iff]
  have hvalues : ∀ key, interesting key = true → endsWith key ".block_count" = false →
      (entries.foldl .add ({} : Captured)).values.get? key = field entries key :=
    fun key hread hblock => values_foldl h.nodup hread hblock
  have hblocks : ∀ key, endsWith key ".block_count" = true →
      (entries.foldl .add ({} : Captured)).blockCounts.get? key = integerField entries key :=
    fun key hblock => blockCounts_foldl h.nodup hblock
  constructor
  · exact Describes.congr hvalues hblocks
  · exact Describes.congr (fun key hread hblock => (hvalues key hread hblock).symm)
      (fun key hblock => (hblocks key hblock).symm)

/-- **The parser reads exactly the format.** On the encoding of a list of entries within the limits, followed by any
bytes, it returns what the entries say; a value is passed over in its encoding, no more and no less, as it is read; and
whatever a file holds, there is an answer or a `GGUFError`, and nothing beyond the end is read. -/
theorem inspect_reads_exactly {tensorCount : ℕ} {entries : List GgufEntry} (h : WithinLimits tensorCount entries)
    (trailing : List UInt8) :
    (∀ info, (inspectGguf (encodeFile tensorCount entries ++ trailing)).1 = .ok info
      ↔ Describes (field entries) (integerField entries) tensorCount entries.length info) ∧
    (∀ value : GgufValue, value.Fits → ∀ pos, (skipValue value.typeId 0).Consumes pos value.encode () ∧
      ∀ v, value.python = some v → (scalar value.typeId).Consumes pos value.encode v) ∧
    (∀ valueType file pos value pos', scalar valueType file pos = (.ok value, pos') →
      skipValue valueType 0 file pos = (.ok (), pos')) ∧
    (∀ file, (inspectGguf file).2 ≤ file.length ∧
      ((∃ info, (inspectGguf file).1 = .ok info) ∨ ∃ e : GGUFError, (inspectGguf file).1 = .error e)) := by
  refine ⟨inspectGguf_encodeFile h trailing, fun value hfits pos => ⟨skipValue_consumes hfits pos, fun v hv =>
    scalar_consumes hfits hv pos⟩, fun _ _ _ _ _ hread => skipValue_of_scalar hread, fun file =>
    ⟨inspectGguf_within file, ?_⟩⟩
  cases (inspectGguf file).1 with
  | ok info => exact .inl ⟨info, rfl⟩
  | error e => exact .inr ⟨e, rfl⟩

/-- A model with an architecture, its number of blocks and an array of texts. -/
def sampleEntries : List GgufEntry :=
  [⟨"general.architecture", .string "llama"⟩, ⟨"llama.block_count", .fixed .uint32 (32 : UInt32)⟩,
    ⟨"tokens", .array (.arrays [.strings ["a", "b"]])⟩]

theorem inspect_reads_exactly_sample : WithinLimits 7 sampleEntries ∧
      ∃ info, (inspectGguf (encodeFile 7 sampleEntries ++ [1, 2])).1 = .ok info ∧ info.blockCount = 32 := by
  have hlimits : WithinLimits 7 sampleEntries := {
    tensors := by decide
    count := by decide
    nodup := by decide
    fits := by
      rw [sampleEntries, forall_mem_cons, forall_mem_cons, forall_mem_singleton]
      refine ⟨⟨by decide, by decide, ?_⟩, ⟨by decide, by decide, trivial⟩, ⟨by decide, by decide, ?_⟩⟩
      · show (utf8 "llama").length ≤ maxStringBytes
        decide
      · simp only [GgufValue.Fits, GgufArray.Fits, arraysFit]
        decide
    readable := by
      rw [sampleEntries, forall_mem_cons, forall_mem_cons, forall_mem_singleton]
      exact ⟨⟨by decide, by decide⟩, ⟨by decide, by decide⟩, ⟨by decide, by decide⟩⟩
    bytes := by decide +kernel }
  have hall := inspect_reads_exactly hlimits [1, 2]
  let info : GGUFInfo := ⟨3, 7, 3, "llama", 32, none, none, none, none, none, none, none, none⟩
  have hdescribes : Describes (field sampleEntries) (integerField sampleEntries) 7 3 info := {
    version := rfl
    tensorCount := rfl
    metadataKvCount := rfl
    architecture := by decide
    named := by decide
    blockCount := by decide
    blockRange := by decide
    name := .inl (by decide)
    modelVersion := .inl (by decide)
    licenseId := .inl (by decide)
    licenseSource := .inl (by decide)
    fileType := by decide
    split := ⟨none, .inl (by decide), rfl, rfl, rfl⟩ }
  exact ⟨hlimits, info, (hall.1 info).mpr hdescribes, rfl⟩

/-- The same model under a name that is a number. -/
def numberedEntries : List GgufEntry :=
  [⟨"general.architecture", .string "llama"⟩, ⟨"llama.block_count", .fixed .uint32 (32 : UInt32)⟩,
    ⟨"general.name", .fixed .uint8 (5 : UInt8)⟩]

/-- **An optional key can fail the parser**: with a valid architecture and number of blocks, a name that is not a text
is an error. -/
theorem numbered_name_is_refused : (numberedEntries.map GgufEntry.key).Nodup ∧ (∀ e ∈ numberedEntries, e.Fits) ∧
      field numberedEntries "general.architecture" = some (.str "llama") ∧ isArchitecture "llama" = true ∧
      integerField numberedEntries "llama.block_count" = some 32 ∧
      (inspectGguf (encodeFile 0 numberedEntries)).1
        = .error ⟨"general.name must be a non-empty string when present"⟩ := by
  refine ⟨by decide, ?_, by decide, by decide, by decide, by decide +kernel⟩
  rw [numberedEntries, forall_mem_cons, forall_mem_cons, forall_mem_singleton]
  refine ⟨⟨by decide, by decide, ?_⟩, ⟨by decide, by decide, trivial⟩, ⟨by decide, by decide, trivial⟩⟩
  show (utf8 "llama").length ≤ maxStringBytes
  decide

end ComputeMesh.Tools
