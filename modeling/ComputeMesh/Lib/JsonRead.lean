import ComputeMesh.Lib.Json

/-!
# Reading JSON

`json.loads`, and `json.dumps(value, ensure_ascii=False, separators=(",", ":"))` without sorting.  `float` is what the
reader makes of the text of a float: its `repr` and its number.  Texts with a lone surrogate are refused, which no text of
characters is.

* `readNumber_append` — a number is read up to where it ends;
* `readChars_flatMap` — a text is read back from its escapes;
* `loads_encode` — **a value is read back from its text**, and `loadsBytes_dumpsBytes` from its bytes.
-/

namespace ComputeMesh.Json

open ComputeMesh.Text List Nat

/-! ### Numbers -/

/-- `0` or digits that do not start with it. -/
def unsignedPart : List Char → Option (List Char × List Char)
  | [] => none
  | c :: cs =>
    if c = '0' then some (['0'], cs)
    else if c.isDigit = true then some (c :: cs.takeWhile Char.isDigit, cs.dropWhile Char.isDigit)
    else none

/-- `-?(?:0|[1-9][0-9]*)`. -/
def intPart : List Char → Option (List Char × List Char)
  | [] => none
  | c :: cs =>
    if c = '-' then (unsignedPart cs).map fun part => ('-' :: part.1, part.2)
    else unsignedPart (c :: cs)

/-- `[0-9]+`, or nothing of what is given. -/
def someDigits (lead whole cs : List Char) : List Char × List Char :=
  if cs.takeWhile Char.isDigit = [] then ([], whole)
  else (lead ++ cs.takeWhile Char.isDigit, cs.dropWhile Char.isDigit)

/-- `(\.[0-9]+)?`. -/
def fracPart : List Char → List Char × List Char
  | [] => ([], [])
  | c :: cs => if c = '.' then someDigits ['.'] (c :: cs) cs else ([], c :: cs)

/-- `([eE][-+]?[0-9]+)?`. -/
def expPart : List Char → List Char × List Char
  | [] => ([], [])
  | c :: cs =>
    if c = 'e' ∨ c = 'E' then
      match cs with
      | [] => ([], [c])
      | d :: ds =>
        if d = '+' ∨ d = '-' then someDigits [c, d] (c :: d :: ds) ds
        else someDigits [c] (c :: d :: ds) (d :: ds)
    else ([], c :: cs)

/-- `int` of a text of digits. -/
def intOf : List Char → ℤ
  | '-' :: cs => -(Nat.ofDigitChars 10 cs 0 : ℕ)
  | cs => (Nat.ofDigitChars 10 cs 0 : ℕ)

variable (float : String → String × Option ℚ)

def floatOf (text : String) : Json :=
  let read := float text
  .float read.1 read.2

/-- The number at the beginning of a text. -/
def readNumber (cs : List Char) : Option (Json × List Char) :=
  match intPart cs with
  | none => none
  | some (whole, rest) =>
    let (frac, rest) := fracPart rest
    let (exp, rest) := expPart rest
    if frac = [] ∧ exp = [] then some (.int (intOf whole), rest)
    else some (floatOf float (String.ofList (whole ++ frac ++ exp)), rest)

/-- The constants of `json`, with the values they stand for. -/
def constants : List (List Char × Json) :=
  [(['n', 'u', 'l', 'l'], .null), (['t', 'r', 'u', 'e'], .bool true), (['f', 'a', 'l', 's', 'e'], .bool false),
    (['N', 'a', 'N'], .float "NaN" none), (['I', 'n', 'f', 'i', 'n', 'i', 't', 'y'], .float "Infinity" none),
    (['-', 'I', 'n', 'f', 'i', 'n', 'i', 't', 'y'], .float "-Infinity" none)]

def readConstant (cs : List Char) : Option (Json × List Char) :=
  constants.findSome? fun constant =>
    if constant.1.isPrefixOf cs = true then some (constant.2, cs.drop constant.1.length) else none

/-! ### Texts -/

def hexDigit (c : Char) : Option ℕ :=
  if c.isDigit = true then some (c.toNat - 48)
  else if 'a' ≤ c ∧ c ≤ 'f' then some (c.toNat - 87)
  else if 'A' ≤ c ∧ c ≤ 'F' then some (c.toNat - 55)
  else none

def readHex4 : List Char → Option (ℕ × List Char)
  | a :: b :: c :: d :: rest =>
    match hexDigit a, hexDigit b, hexDigit c, hexDigit d with
    | some a, some b, some c, some d => some (((a * 16 + b) * 16 + c) * 16 + d, rest)
    | _, _, _, _ => none
  | _ => none

/-- What follows `\u`. -/
def readUnicode (cs : List Char) : Option (Char × List Char) :=
  match readHex4 cs with
  | none => none
  | some (n, rest) =>
    if 0xd800 ≤ n ∧ n ≤ 0xdbff then
      match rest with
      | '\\' :: 'u' :: rest =>
        match readHex4 rest with
        | some (m, rest) =>
          if 0xdc00 ≤ m ∧ m ≤ 0xdfff then some (Char.ofNat (0x10000 + (n - 0xd800) * 0x400 + (m - 0xdc00)), rest) else none
        | none => none
      | _ => none
    else if 0xdc00 ≤ n ∧ n ≤ 0xdfff then none
    else some (Char.ofNat n, rest)

def simpleEscape (c : Char) : Option Char :=
  if c = '"' ∨ c = '\\' ∨ c = '/' then some c
  else if c = 'b' then some (Char.ofNat 8)
  else if c = 'f' then some (Char.ofNat 12)
  else if c = 'n' then some '\n'
  else if c = 'r' then some '\r'
  else if c = 't' then some '\t'
  else none

/-- One character of the inside of a text. -/
def readChar : List Char → Option (Char × List Char)
  | [] => none
  | c :: cs =>
    if c = '\\' then
      match cs with
      | [] => none
      | d :: ds => if d = 'u' then readUnicode ds else (simpleEscape d).map fun e => (e, ds)
    else if c.toNat < 32 then none
    else some (c, cs)

/-- The inside of a text, up to its closing quote. -/
def readChars : ℕ → List Char → Option (List Char × List Char)
  | 0, _ => none
  | _ + 1, [] => none
  | fuel + 1, c :: cs =>
    if c = '"' then some ([], cs)
    else
      match readChar (c :: cs) with
      | none => none
      | some (d, rest) => (readChars fuel rest).map fun read => (d :: read.1, read.2)

/-! ### Values -/

def isJsonSpace (c : Char) : Bool := decide (c = ' ' ∨ c = '\t' ∨ c = '\n' ∨ c = '\r')

def skip (cs : List Char) : List Char := cs.dropWhile isJsonSpace

/-- The `dict` of some members; the last one of a key counts. -/
def dictOf (members : List (String × Json)) : List (String × Json) :=
  members.foldl (fun d member => Dict.put member.1 member.2 d) []

mutual

/-- The value at the beginning of a text. -/
def readValue : ℕ → List Char → Option (Json × List Char)
  | 0, _ => none
  | fuel + 1, cs =>
    match readNumber float cs with
    | some read => some read
    | none =>
      match readConstant cs with
      | some read => some read
      | none =>
        match cs with
        | '"' :: cs => (readChars fuel cs).map fun read => (.str (String.ofList read.1), read.2)
        | '[' :: cs =>
          match skip cs with
          | ']' :: rest => some (.arr [], rest)
          | rest => (readItems fuel rest).map fun read => (.arr read.1, read.2)
        | '\x7b' :: cs =>
          match skip cs with
          | '\x7d' :: rest => some (.obj [], rest)
          | rest => (readMembers fuel rest).map fun read => (.obj (dictOf read.1), read.2)
        | _ => none

/-- The items of an array that has some, up to its end. -/
def readItems : ℕ → List Char → Option (List Json × List Char)
  | 0, _ => none
  | fuel + 1, cs =>
    match readValue fuel cs with
    | none => none
    | some (value, rest) =>
      match skip rest with
      | ']' :: rest => some ([value], rest)
      | ',' :: rest => (readItems fuel (skip rest)).map fun read => (value :: read.1, read.2)
      | _ => none

/-- The members of an object that has some, up to its end. -/
def readMembers : ℕ → List Char → Option (List (String × Json) × List Char)
  | 0, _ => none
  | fuel + 1, cs =>
    match cs with
    | '"' :: cs =>
      match readChars fuel cs with
      | none => none
      | some (key, rest) =>
        match skip rest with
        | ':' :: rest =>
          match readValue fuel (skip rest) with
          | none => none
          | some (value, rest) =>
            match skip rest with
            | '\x7d' :: rest => some ([(String.ofList key, value)], rest)
            | ',' :: rest => (readMembers fuel (skip rest)).map fun read => ((String.ofList key, value) :: read.1, read.2)
            | _ => none
        | _ => none
    | _ => none

end

/-- `json.loads`. -/
def loads (text : String) : Option Json :=
  match readValue float (text.length + 1) (skip text.toList) with
  | none => none
  | some (value, rest) => if skip rest = [] then some value else none

/-! ### Writing -/

def quoted (text : String) : List Char := '"' :: (text.toList.flatMap jsonChar ++ ['"'])

mutual

/-- `json.dumps(value, ensure_ascii=False, separators=(",", ":"))`. -/
def encode : Json → List Char
  | null => ['n', 'u', 'l', 'l']
  | bool true => ['t', 'r', 'u', 'e']
  | bool false => ['f', 'a', 'l', 's', 'e']
  | int n => (toString n).toList
  | .float repr _ => repr.toList
  | str text => quoted text
  | arr items => '[' :: encodeItems [] items
  | obj fields => '\x7b' :: encodeMembers [] fields

def encodeItems : List Char → List Json → List Char
  | _, [] => [']']
  | separator, item :: rest => separator ++ (encode item ++ encodeItems [','] rest)

def encodeMembers : List Char → List (String × Json) → List Char
  | _, [] => ['\x7d']
  | separator, (key, value) :: rest => separator ++ (quoted key ++ ':' :: (encode value ++ encodeMembers [','] rest))

end

/-! ### What can follow a value -/

/-- What can follow a value in a text that `encode` wrote. -/
def Ends (x : List Char) : Prop := x = [] ∨ ∃ c rest, x = c :: rest ∧ (c = ',' ∨ c = ']' ∨ c = '\x7d')

variable {x : List Char} {c : Char}

theorem Ends.head (h : Ends x) {rest : List Char} (hx : x = c :: rest) :
    c.isDigit = false ∧ isJsonSpace c = false ∧ c ≠ '.' ∧ c ≠ 'e' ∧ c ≠ 'E' ∧ c ≠ '+' ∧ c ≠ '-' ∧ c ≠ '0' := by
  rcases h with rfl | ⟨d, _, rfl, hd⟩
  · cases hx
  · cases hx
    rcases hd with rfl | rfl | rfl <;> decide

theorem takeWhile_append_ends (cs : List Char) (h : Ends x) :
    (cs ++ x).takeWhile Char.isDigit = cs.takeWhile Char.isDigit := by
  induction cs with
  | nil =>
    cases x with
    | nil => rfl
    | cons c rest => rw [nil_append, takeWhile_cons, (h.head rfl).1]; rfl
  | cons d cs ih =>
    rw [cons_append, takeWhile_cons, takeWhile_cons, ih]

theorem dropWhile_append_ends (cs : List Char) (h : Ends x) :
    (cs ++ x).dropWhile Char.isDigit = cs.dropWhile Char.isDigit ++ x := by
  induction cs with
  | nil =>
    cases x with
    | nil => rfl
    | cons c rest => rw [nil_append, dropWhile_cons, (h.head rfl).1]; rfl
  | cons d cs ih =>
    rw [cons_append, dropWhile_cons, dropWhile_cons, ih]
    split <;> rfl

theorem unsignedPart_append {cs whole rest : List Char} (h : unsignedPart cs = some (whole, rest)) (hx : Ends x) :
    unsignedPart (cs ++ x) = some (whole, rest ++ x) := by
  cases cs with
  | nil => cases h
  | cons c cs =>
    unfold unsignedPart at h
    rw [cons_append]
    unfold unsignedPart
    dsimp only at h ⊢
    split at h
    · rename_i hc
      cases h
      rw [if_pos hc]
    · rename_i hc
      split at h
      · rename_i hdigit
        cases h
        rw [if_neg hc, if_pos hdigit, takeWhile_append_ends _ hx, dropWhile_append_ends _ hx]
      · cases h

theorem intPart_append {cs whole rest : List Char} (h : intPart cs = some (whole, rest)) (hx : Ends x) :
    intPart (cs ++ x) = some (whole, rest ++ x) := by
  cases cs with
  | nil => cases h
  | cons c cs =>
    unfold intPart at h
    rw [cons_append]
    unfold intPart
    dsimp only at h ⊢
    split at h
    · rename_i hc
      rw [if_pos hc]
      obtain ⟨part, hpart, heq⟩ := Option.map_eq_some_iff.mp h
      cases heq
      rw [unsignedPart_append hpart hx]
      rfl
    · rename_i hc
      rw [if_neg hc]
      exact unsignedPart_append h hx

theorem someDigits_append (lead whole cs : List Char) (hx : Ends x) :
    someDigits lead (whole ++ x) (cs ++ x) = ((someDigits lead whole cs).1, (someDigits lead whole cs).2 ++ x) := by
  unfold someDigits
  rw [takeWhile_append_ends _ hx, dropWhile_append_ends _ hx]
  split <;> rfl

theorem someDigits_ends (lead : List Char) (whole : List Char) (hx : Ends x) :
    someDigits lead whole x = ([], whole) := if_pos (takeWhile_append_ends [] hx)

theorem fracPart_append (cs : List Char) (hx : Ends x) :
    fracPart (cs ++ x) = ((fracPart cs).1, (fracPart cs).2 ++ x) := by
  cases cs with
  | nil =>
    cases x with
    | nil => rfl
    | cons c rest => exact if_neg (hx.head rfl).2.2.1
  | cons c cs =>
    rw [cons_append]
    unfold fracPart
    dsimp only
    split
    · exact someDigits_append ['.'] (c :: cs) cs hx
    · rfl

theorem expPart_append (cs : List Char) (hx : Ends x) :
    expPart (cs ++ x) = ((expPart cs).1, (expPart cs).2 ++ x) := by
  cases cs with
  | nil =>
    cases x with
    | nil => rfl
    | cons c rest =>
      obtain ⟨-, -, -, he, hE, -⟩ := hx.head rfl
      exact if_neg (not_or.mpr ⟨he, hE⟩)
  | cons c cs =>
    rw [cons_append]
    unfold expPart
    dsimp only
    split
    · cases cs with
      | nil =>
        -- the letter of an exponent that has no digits is not read
        cases x with
        | nil => rfl
        | cons d rest =>
          obtain ⟨-, -, -, -, -, hplus, hminus, -⟩ := hx.head rfl
          rw [nil_append]
          dsimp only
          rw [if_neg (not_or.mpr ⟨hplus, hminus⟩)]
          exact someDigits_ends [c] (c :: d :: rest) hx
      | cons d ds =>
        rw [cons_append]
        dsimp only
        split
        · exact someDigits_append [c, d] (c :: d :: ds) ds hx
        · exact someDigits_append [c] (c :: d :: ds) (d :: ds) hx
    · rfl

/-- **A number is read up to where it ends.** -/
theorem readNumber_append {cs rest : List Char} {value : Json} (h : readNumber float cs = some (value, rest))
    (hx : Ends x) : readNumber float (cs ++ x) = some (value, rest ++ x) := by
  unfold readNumber at h ⊢
  cases hint : intPart cs with
  | none =>
    rw [hint] at h
    cases h
  | some part =>
    obtain ⟨whole, after⟩ := part
    rw [hint] at h
    rw [intPart_append hint hx]
    dsimp only at h ⊢
    rw [fracPart_append after hx]
    dsimp only
    rw [expPart_append _ hx]
    dsimp only
    split at h
    · rename_i hnone
      rw [if_pos hnone]
      cases h
      rfl
    · rename_i hsome
      rw [if_neg hsome]
      cases h
      rfl

/-! ### Numbers read back -/

theorem isDigit_of_mem_digits {m : ℕ} (h : c ∈ Nat.toDigits 10 m) : c.isDigit = true :=
  isDigit_of_mem_toDigits (by decide) (by decide) h

theorem digits_head {m : ℕ} (h : 0 < m) : ∃ c cs, Nat.toDigits 10 m = c :: cs ∧ c ≠ '0' := by
  induction m using Nat.strongRecOn with
  | ind m ih =>
    by_cases hm : m < 10
    · refine ⟨digitChar m, [], toDigits_of_lt_base hm, ?_⟩
      have hall : ∀ k < 10, 0 < k → digitChar k ≠ '0' := by decide
      exact hall m hm h
    · obtain ⟨c, cs, hcs, hc⟩ := ih (m / 10) (by omega) (by omega)
      refine ⟨c, cs ++ [digitChar (m % 10)], ?_, hc⟩
      rw [toDigits_of_base_le (by decide) (by omega), hcs, cons_append]

theorem unsignedPart_digits (m : ℕ) : unsignedPart (Nat.toDigits 10 m) = some (Nat.toDigits 10 m, []) := by
  rcases m.eq_zero_or_pos with rfl | hm
  · rfl
  · obtain ⟨c, cs, hcs, hc⟩ := digits_head hm
    have hdigits : ∀ d ∈ c :: cs, d.isDigit = true := fun d hd => isDigit_of_mem_digits (by rw [hcs]; exact hd)
    have hrest : ∀ d ∈ cs, d.isDigit = true := fun d hd => hdigits d (mem_cons_of_mem c hd)
    rw [hcs]
    unfold unsignedPart
    dsimp only
    rw [if_neg hc, if_pos (hdigits c mem_cons_self), takeWhile_eq_self_iff.mpr hrest,
      dropWhile_eq_nil_iff.mpr hrest]

theorem intPart_intText (n : ℤ) : intPart (toString n).toList = some ((toString n).toList, []) ∧
    intOf (toString n).toList = n := by
  cases n with
  | ofNat m =>
    have htext : (toString (Int.ofNat m)).toList = toDigits 10 m := toList_repr
    obtain ⟨c, cs, hcs⟩ := exists_cons_of_ne_nil (toDigits_ne_nil (b := 10) (n := m))
    have hdigit : c.isDigit = true := isDigit_of_mem_digits (m := m) (by rw [hcs]; exact mem_cons_self)
    have hsign : c ≠ '-' := by
      rintro rfl
      cases hdigit
    have hread := unsignedPart_digits m
    have hvalue := ofDigitChars_ten_toDigits (n := m)
    rw [htext]
    rw [hcs] at hread hvalue ⊢
    constructor
    · unfold intPart
      dsimp only
      rw [if_neg hsign, hread]
    · unfold intOf
      split
      · rename_i heq
        cases heq
        exact absurd rfl hsign
      · rw [hvalue]
        rfl
  | negSucc m =>
    have htext : (toString (Int.negSucc m)).toList = '-' :: Nat.toDigits 10 (m + 1) := by
      show ("-" ++ Nat.repr (m + 1)).toList = _
      rw [String.toList_append, Nat.toList_repr]
      rfl
    rw [htext]
    constructor
    · unfold intPart
      dsimp only
      rw [if_pos rfl, unsignedPart_digits]
      rfl
    · show -((ofDigitChars 10 (toDigits 10 (m + 1)) 0 : ℕ) : ℤ) = Int.negSucc m
      rw [ofDigitChars_ten_toDigits]
      rfl

theorem readNumber_intText (n : ℤ) (hx : Ends x) :
    readNumber float ((toString n).toList ++ x) = some (.int n, x) := by
  obtain ⟨hpart, hvalue⟩ := intPart_intText n
  have hread : readNumber float (toString n).toList = some (.int n, []) := by
    unfold readNumber
    rw [hpart]
    dsimp only
    rw [hvalue]
    rfl
  exact readNumber_append float hread hx

/-! ### Texts read back -/

theorem hexDigit_digitChar : ∀ k < 16, hexDigit (Nat.digitChar k) = some k := by decide

theorem readHex4_control {n : ℕ} (h : n < 32) (x : List Char) :
    readHex4 ('0' :: '0' :: Nat.digitChar (n / 16) :: Nat.digitChar (n % 16) :: x) = some (n, x) := by
  have hzero : hexDigit '0' = some 0 := by decide
  unfold readHex4
  dsimp only
  rw [hzero, hexDigit_digitChar _ (by omega), hexDigit_digitChar _ (by omega)]
  dsimp only
  rw [show ((0 * 16 + 0) * 16 + n / 16) * 16 + n % 16 = n by omega]

theorem readUnicode_control {n : ℕ} (h : n < 32) (x : List Char) :
    readUnicode ('0' :: '0' :: Nat.digitChar (n / 16) :: Nat.digitChar (n % 16) :: x) = some (Char.ofNat n, x) := by
  unfold readUnicode
  rw [readHex4_control h]
  dsimp only
  rw [if_neg (by omega), if_neg (by omega)]

/-- The escape of a character does not start like the end of a text, and the character is read back from it. -/
theorem readChar_jsonChar (c : Char) (x : List Char) :
    ∃ d ds, jsonChar c ++ x = d :: ds ∧ d ≠ '"' ∧ readChar (d :: ds) = some (c, x) := by
  unfold jsonChar
  split_ifs with hq hs hn hr ht hb hf hc
  · subst hq; exact ⟨_, _, rfl, by decide, rfl⟩
  · subst hs; exact ⟨_, _, rfl, by decide, rfl⟩
  · subst hn; exact ⟨_, _, rfl, by decide, rfl⟩
  · subst hr; exact ⟨_, _, rfl, by decide, rfl⟩
  · subst ht; exact ⟨_, _, rfl, by decide, rfl⟩
  · rw [← Char.ofNat_toNat c, hb]; exact ⟨_, _, rfl, by decide, rfl⟩
  · rw [← Char.ofNat_toNat c, hf]; exact ⟨_, _, rfl, by decide, rfl⟩
  · refine ⟨_, _, rfl, by decide, ?_⟩
    have hread := readUnicode_control hc x
    rw [Char.ofNat_toNat] at hread
    exact hread
  · refine ⟨c, x, rfl, hq, ?_⟩
    unfold readChar
    dsimp only
    rw [if_neg hs, if_neg hc]

variable {fuel : ℕ}

/-- **A text is read back from its escapes.** -/
theorem readChars_flatMap (cs x : List Char) (h : (cs.flatMap jsonChar).length < fuel) :
    readChars fuel (cs.flatMap jsonChar ++ '"' :: x) = some (cs, x) := by
  induction cs generalizing fuel with
  | nil =>
    cases fuel with
    | zero => exact absurd h (not_lt_zero _)
    | succ fuel => rfl
  | cons c cs ih =>
    cases fuel with
    | zero => exact absurd h (not_lt_zero _)
    | succ fuel =>
      obtain ⟨d, ds, heq, hd, hread⟩ := readChar_jsonChar c (cs.flatMap jsonChar ++ '"' :: x)
      have hlen : 0 < (jsonChar c).length := by
        obtain ⟨d, ds, heq, -⟩ := readChar_jsonChar c []
        rw [List.append_nil] at heq
        rw [heq]
        exact Nat.succ_pos _
      rw [List.flatMap_cons, List.length_append] at h
      rw [List.flatMap_cons, List.append_assoc, heq]
      unfold readChars
      rw [if_neg hd, hread]
      dsimp only
      rw [ih (by omega)]
      rfl

/-! ### Values read back -/

/-- The floats that are infinite or no number. -/
def specials : List (String × Option ℚ) := [("NaN", none), ("Infinity", none), ("-Infinity", none)]

mutual

/-- **A value of the language**: `float` gives every float of it back from its `repr`, and a `dict` has each key once. -/
def Readable : Json → Prop
  | null => True
  | bool _ => True
  | int _ => True
  | .float repr value => (repr, value) ∈ specials ∨ readNumber float repr.toList = some (.float repr value, [])
  | str _ => True
  | arr items => ReadableItems items
  | obj fields => (fields.map Prod.fst).Nodup ∧ ReadableMembers fields

def ReadableItems : List Json → Prop
  | [] => True
  | item :: rest => Readable item ∧ ReadableItems rest

def ReadableMembers : List (String × Json) → Prop
  | [] => True
  | (_, value) :: rest => Readable value ∧ ReadableMembers rest

end

variable {float}

theorem readNumber_head {cs : List Char} {read : Json × List Char} (h : readNumber float cs = some read) :
    ∃ c rest, cs = c :: rest ∧ (c = '-' ∨ c.isDigit = true) := by
  unfold readNumber at h
  cases cs with
  | nil => cases h
  | cons c cs =>
    refine ⟨c, cs, rfl, ?_⟩
    by_contra hno
    obtain ⟨hsign, hdigit⟩ := not_or.mp hno
    have hzero : c ≠ '0' := by
      rintro rfl
      exact hdigit (by decide)
    have hnone : intPart (c :: cs) = none := by
      unfold intPart
      dsimp only
      rw [if_neg hsign]
      unfold unsignedPart
      dsimp only
      rw [if_neg hzero, if_neg hdigit]
    rw [hnone] at h
    cases h

theorem head_of_sign_or_digit (h : c = '-' ∨ c.isDigit = true) : isJsonSpace c = false ∧ c ≠ ']' := by
  rcases h with rfl | h
  · decide
  · constructor
    · unfold isJsonSpace
      refine decide_eq_false ?_
      rintro (rfl | rfl | rfl | rfl) <;> cases h
    · rintro rfl
      cases h

variable {v : Json}

/-- The text of a value starts neither with a space nor like the end of an array. -/
theorem encode_head (h : Readable float v) : ∃ c cs, encode v = c :: cs ∧ isJsonSpace c = false ∧ c ≠ ']' := by
  cases v with
  | null => exact ⟨_, _, rfl, by decide, by decide⟩
  | bool b => cases b <;> exact ⟨_, _, rfl, by decide, by decide⟩
  | int n =>
    have hread := readNumber_intText (fun text => (text, none)) n (x := []) (.inl rfl)
    rw [List.append_nil] at hread
    obtain ⟨c, cs, hcs, hc⟩ := readNumber_head hread
    exact ⟨c, cs, hcs, head_of_sign_or_digit hc⟩
  | float repr value =>
    rcases h with h | h
    · simp only [specials, List.mem_cons, Prod.mk.injEq, List.not_mem_nil, or_false] at h
      rcases h with ⟨rfl, -⟩ | ⟨rfl, -⟩ | ⟨rfl, -⟩ <;> exact ⟨_, _, rfl, by decide, by decide⟩
    · obtain ⟨c, cs, hcs, hc⟩ := readNumber_head h
      exact ⟨c, cs, hcs, head_of_sign_or_digit hc⟩
  | str text | arr items | obj fields => exact ⟨_, _, rfl, by decide, by decide⟩

theorem skip_cons (h : isJsonSpace c = false) (cs : List Char) : skip (c :: cs) = c :: cs := by
  unfold skip
  rw [List.dropWhile_cons, h]
  rfl

theorem skip_encode (h : Readable float v) (x : List Char) : skip (encode v ++ x) = encode v ++ x := by
  obtain ⟨c, cs, hcs, hc, -⟩ := encode_head h
  rw [hcs, List.cons_append, skip_cons hc]

theorem find_eq_none {key : String} {members : List (String × Json)} (h : key ∉ members.map Prod.fst) :
    Dict.find key members = none := by
  induction members with
  | nil => rfl
  | cons member rest ih =>
    obtain ⟨hne, hrest⟩ := not_or.mp (mt List.mem_cons.mpr h)
    exact (if_neg (Ne.symm hne)).trans (ih hrest)

theorem dictOf_of_nodup {members : List (String × Json)} (h : (members.map Prod.fst).Nodup) : dictOf members = members := by
  have hstep : ∀ (rest before : List (String × Json)), ((before ++ rest).map Prod.fst).Nodup →
      rest.foldl (fun d member => Dict.put member.1 member.2 d) before = before ++ rest := by
    intro rest
    induction rest with
    | nil => exact fun before _ => (List.append_nil before).symm
    | cons member rest ih =>
      intro before hnodup
      have hnew : Dict.find member.1 before = none := by
        rw [List.map_append, List.map_cons, List.nodup_middle, List.nodup_cons] at hnodup
        exact find_eq_none fun hmem => hnodup.1 (List.mem_append_left _ hmem)
      rw [List.foldl_cons, Dict.put_of_find_none hnew, ih _ (by rw [List.append_assoc]; exact hnodup), List.append_assoc]
      rfl
  exact hstep members [] h

theorem length_encode_pos (h : Readable float v) : 0 < (encode v).length := by
  obtain ⟨c, cs, hcs, -⟩ := encode_head h
  rw [hcs]
  exact Nat.succ_pos _

theorem readValue_quoted (text : String) (x : List Char) (h : (quoted text).length ≤ fuel) :
    readValue float fuel (quoted text ++ x) = some (.str text, x) := by
  unfold quoted at h ⊢
  cases fuel with
  | zero => exact absurd h (Nat.not_succ_le_zero _)
  | succ fuel =>
    simp only [List.length_cons, List.length_append, List.length_nil] at h
    have hchars : readChars fuel (text.toList.flatMap jsonChar ++ ['"'] ++ x) = some (text.toList, x) := by
      rw [append_assoc]
      exact readChars_flatMap text.toList x (by omega)
    show (readChars fuel (text.toList.flatMap jsonChar ++ ['"'] ++ x)).map
      (fun read => (Json.str (String.ofList read.1), read.2)) = _
    rw [hchars, Option.map_some, String.ofList_toList]

theorem readValue_number {cs : List Char} (h : readNumber float cs = some (v, [])) (hx : Ends x)
    (hfuel : 0 < fuel) : readValue float fuel (cs ++ x) = some (v, x) := by
  obtain ⟨fuel, rfl⟩ := Nat.exists_eq_succ_of_ne_zero hfuel.ne'
  unfold readValue
  rw [readNumber_append float h hx]
  rfl

theorem readMembers_quoted (key : String) (hv : Readable float v) (y : List Char)
    (hkey : (quoted key).length ≤ fuel + 1) (hread : readValue float fuel (encode v ++ y) = some (v, y)) :
    readMembers float (fuel + 1) (quoted key ++ ':' :: (encode v ++ y)) =
      match skip y with
      | '\x7d' :: rest => some ([(key, v)], rest)
      | ',' :: rest => (readMembers float fuel (skip rest)).map fun read => ((key, v) :: read.1, read.2)
      | _ => none := by
  unfold quoted at hkey ⊢
  simp only [List.length_cons, List.length_append, List.length_nil] at hkey
  have hchars : readChars fuel (key.toList.flatMap jsonChar ++ '"' :: ':' :: (encode v ++ y)) =
      some (key.toList, ':' :: (encode v ++ y)) := readChars_flatMap key.toList _ (by omega)
  rw [cons_append, append_assoc, singleton_append]
  show (match readChars fuel (key.toList.flatMap jsonChar ++ '"' :: ':' :: (encode v ++ y)) with
    | none => none
    | some (key, rest) =>
      match skip rest with
      | ':' :: rest =>
        match readValue float fuel (skip rest) with
        | none => none
        | some (value, rest) =>
          match skip rest with
          | '\x7d' :: rest => some ([(String.ofList key, value)], rest)
          | ',' :: rest =>
            (readMembers float fuel (skip rest)).map fun read : List (String × Json) × List Char =>
              ((String.ofList key, value) :: read.1, read.2)
          | _ => none
      | _ => none) = _
  rw [hchars]
  show (match readValue float fuel (skip (encode v ++ y)) with
    | none => none
    | some (value, rest) =>
      match skip rest with
      | '\x7d' :: rest => some ([(String.ofList key.toList, value)], rest)
      | ',' :: rest =>
        (readMembers float fuel (skip rest)).map fun read : List (String × Json) × List Char =>
          ((String.ofList key.toList, value) :: read.1, read.2)
      | _ => none) = _
  rw [skip_encode hv, hread, String.ofList_toList]

mutual

/-- **A value is read back from its text, whatever follows it.** -/
theorem readValue_encode : ∀ (v : Json), Readable float v → ∀ (x : List Char), Ends x → ∀ (fuel : ℕ),
    (encode v).length ≤ fuel → readValue float fuel (encode v ++ x) = some (v, x)
  | .null, _, x, _, fuel + 1, _ => rfl
  | .bool true, _, x, _, fuel + 1, _ => rfl
  | .bool false, _, x, _, fuel + 1, _ => rfl
  | .int n, h, x, hx, fuel, hfuel =>
    readValue_number (by have := readNumber_intText float n (x := []) (.inl rfl); rwa [List.append_nil] at this) hx
      ((length_encode_pos h).trans_le hfuel)
  | .float repr value, h, x, hx, fuel, hfuel => by
    have hpos := (length_encode_pos h).trans_le hfuel
    rcases h with h | h
    · obtain ⟨fuel, rfl⟩ := Nat.exists_eq_succ_of_ne_zero hpos.ne'
      simp only [specials, List.mem_cons, Prod.mk.injEq, List.not_mem_nil, or_false] at h
      rcases h with ⟨rfl, rfl⟩ | ⟨rfl, rfl⟩ | ⟨rfl, rfl⟩ <;> rfl
    · exact readValue_number h hx hpos
  | .str text, _, x, _, fuel, hfuel => readValue_quoted text x hfuel
  | .arr [], _, x, _, fuel + 1, _ => rfl
  | .arr (item :: rest), h, x, hx, fuel + 1, hfuel => by
    have hlen : (encodeItems [] (item :: rest)).length ≤ fuel := Nat.le_of_succ_le_succ hfuel
    have hread := readItems_encode (item :: rest) h (List.cons_ne_nil _ _) x fuel hlen
    obtain ⟨c, cs, hcs, hspace, hc⟩ := encode_head h.1
    have hhead : encodeItems [] (item :: rest) ++ x = c :: (cs ++ (encodeItems [','] rest ++ x)) := by
      show encode item ++ encodeItems [','] rest ++ x = _
      rw [hcs, List.append_assoc]
      rfl
    rw [hhead] at hread
    show readValue float (fuel + 1) ('[' :: (encodeItems [] (item :: rest) ++ x)) = _
    rw [hhead]
    show (match skip (c :: (cs ++ (encodeItems [','] rest ++ x))) with
      | ']' :: rest => some (Json.arr [], rest)
      | rest => (readItems float fuel rest).map fun read : List Json × List Char => (.arr read.1, read.2)) = _
    rw [skip_cons hspace]
    split
    · rename_i heq
      cases heq
      exact absurd rfl hc
    · rw [hread]
      rfl
  | .obj [], _, x, _, fuel + 1, _ => rfl
  | .obj ((key, value) :: rest), h, x, hx, fuel + 1, hfuel => by
    have hlen : (encodeMembers [] ((key, value) :: rest)).length ≤ fuel := Nat.le_of_succ_le_succ hfuel
    have hread := readMembers_encode ((key, value) :: rest) h.2 (List.cons_ne_nil _ _) x fuel hlen
    show (readMembers float fuel (encodeMembers [] ((key, value) :: rest) ++ x)).map
      (fun read => (Json.obj (dictOf read.1), read.2)) = _
    rw [hread, Option.map_some, dictOf_of_nodup h.1]

theorem readItems_encode : ∀ (items : List Json), ReadableItems float items → items ≠ [] → ∀ (x : List Char) (fuel : ℕ),
    (encodeItems [] items).length ≤ fuel → readItems float fuel (encodeItems [] items ++ x) = some (items, x)
  | item :: rest, h, _, x, 0, hfuel => by
    have hpos := length_encode_pos h.1
    have : (encode item ++ encodeItems [','] rest).length ≤ 0 := hfuel
    rw [List.length_append] at this
    omega
  | [item], h, _, x, fuel + 1, hfuel => by
    have hlen : (encode item).length ≤ fuel := by
      have : (encode item ++ [']']).length ≤ fuel + 1 := hfuel
      rw [List.length_append, List.length_singleton] at this
      omega
    have hread := readValue_encode item h.1 (']' :: x) (.inr ⟨']', x, rfl, .inr (.inl rfl)⟩) fuel hlen
    show readItems float (fuel + 1) (encode item ++ [']'] ++ x) = _
    rw [List.append_assoc]
    unfold readItems
    rw [List.singleton_append, hread]
    rfl
  | item :: next :: rest, h, _, x, fuel + 1, hfuel => by
    have hsplit : encodeItems [] (item :: next :: rest) = encode item ++ ',' :: encodeItems [] (next :: rest) := rfl
    rw [hsplit, List.length_append, List.length_cons] at hfuel
    have hread := readValue_encode item h.1 (',' :: (encodeItems [] (next :: rest) ++ x)) (.inr ⟨',', _, rfl, .inl rfl⟩)
      fuel (by omega)
    have hrest := readItems_encode (next :: rest) h.2 (List.cons_ne_nil _ _) x fuel (by
      have := length_encode_pos h.1
      omega)
    rw [hsplit, List.append_assoc, List.cons_append]
    unfold readItems
    rw [hread]
    show (readItems float fuel (skip (encodeItems [] (next :: rest) ++ x))).map
      (fun read => (item :: read.1, read.2)) = _
    have hskip : skip (encodeItems [] (next :: rest) ++ x) = encodeItems [] (next :: rest) ++ x := by
      show skip (encode next ++ encodeItems [','] rest ++ x) = _
      rw [List.append_assoc, skip_encode h.2.1]
      exact (List.append_assoc _ _ _).symm
    rw [hskip, hrest]
    rfl

theorem readMembers_encode : ∀ (members : List (String × Json)), ReadableMembers float members → members ≠ [] →
    ∀ (x : List Char) (fuel : ℕ), (encodeMembers [] members).length ≤ fuel →
      readMembers float fuel (encodeMembers [] members ++ x) = some (members, x)
  | (key, value) :: rest, _, _, x, 0, hfuel => absurd hfuel (Nat.not_succ_le_zero _)
  | [(key, value)], h, _, x, fuel + 1, hfuel => by
    have hsplit : encodeMembers [] [(key, value)] = quoted key ++ ':' :: (encode value ++ ['\x7d']) := rfl
    rw [hsplit, List.length_append, List.length_cons, List.length_append, List.length_singleton] at hfuel
    have hread := readValue_encode value h.1 ('\x7d' :: x) (.inr ⟨'\x7d', x, rfl, .inr (.inr rfl)⟩) fuel (by omega)
    rw [hsplit, List.append_assoc, List.cons_append, List.append_assoc, List.singleton_append,
      readMembers_quoted key h.1 _ (by omega) hread]
    rfl
  | (key, value) :: next :: rest, h, _, x, fuel + 1, hfuel => by
    have hsplit : encodeMembers [] ((key, value) :: next :: rest) =
      quoted key ++ ':' :: (encode value ++ ',' :: encodeMembers [] (next :: rest)) := rfl
    rw [hsplit, List.length_append, List.length_cons, List.length_append, List.length_cons] at hfuel
    have hread := readValue_encode value h.1 (',' :: (encodeMembers [] (next :: rest) ++ x)) (.inr ⟨',', _, rfl, .inl rfl⟩)
      fuel (by omega)
    have hrest := readMembers_encode (next :: rest) h.2 (List.cons_ne_nil _ _) x fuel (by omega)
    rw [hsplit, List.append_assoc, List.cons_append, List.append_assoc, List.cons_append,
      readMembers_quoted key h.1 _ (by omega) hread]
    show (readMembers float fuel (skip (encodeMembers [] (next :: rest) ++ x))).map
      (fun read => ((key, value) :: read.1, read.2)) = _
    have hskip : skip (encodeMembers [] (next :: rest) ++ x) = encodeMembers [] (next :: rest) ++ x := rfl
    rw [hskip, hrest]
    rfl

end

/-- **A value is read back from what `dumps` wrote of it.** -/
theorem loads_encode (h : Readable float v) : loads float (String.ofList (encode v)) = some v := by
  have hread := readValue_encode v h [] (.inl rfl) ((encode v).length + 1) (Nat.le_succ _)
  rw [List.append_nil] at hread
  have hskip := skip_encode h []
  rw [List.append_nil] at hskip
  unfold loads
  rw [String.toList_ofList, String.length_ofList, hskip, hread]
  rfl

/-! ### As bytes -/

def utf8 (cs : List Char) : List UInt8 := cs.flatMap String.utf8EncodeChar

theorem fromUTF8?_utf8 (cs : List Char) : String.fromUTF8? ⟨(utf8 cs).toArray⟩ = some (String.ofList cs) := by
  have hbytes : (⟨(utf8 cs).toArray⟩ : ByteArray) = (String.ofList cs).toByteArray := by
    rw [← String.utf8Encode_toList, String.toList_ofList]
    exact (ByteArray.ext (by rw [List.utf8Encode, List.data_toByteArray]; rfl)).symm
  rw [hbytes]
  exact dif_pos (String.ofList cs).isValidUTF8

theorem utf8_injective : Function.Injective utf8 := by
  intro cs ds h
  have hcs := fromUTF8?_utf8 cs
  rw [h, fromUTF8?_utf8] at hcs
  exact (String.ofList_injective (Option.some_inj.mp hcs)).symm

/-- `json.dumps(value, ensure_ascii=False, separators=(",", ":")).encode("utf-8")`. -/
def dumpsBytes (v : Json) : List UInt8 := utf8 (encode v)

variable (float) in
/-- `json.loads(raw.decode("utf-8"))`. -/
def loadsBytes (raw : List UInt8) : Option Json :=
  match String.fromUTF8? ⟨raw.toArray⟩ with
  | none => none
  | some text => loads float text

/-- **A value is read back from its bytes.** -/
theorem loadsBytes_dumpsBytes (h : Readable float v) : loadsBytes float (dumpsBytes v) = some v := by
  unfold loadsBytes dumpsBytes
  rw [fromUTF8?_utf8]
  exact loads_encode h

end ComputeMesh.Json
