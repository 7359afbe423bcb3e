import ComputeMesh.Lib.Dict
import ComputeMesh.Lib.Text

/-!
# JSON values

The values `json.loads` returns, and the text that
`json.dumps(value, sort_keys=True, separators=(",", ":"), ensure_ascii=False)` makes of them.  A float is kept
as its `repr`, which is what `dumps` writes, with the number it stands for unless it is infinite or no number.

* `unescape_jsonChar` — a character is read back from its escape;
* `jsonText_append_inj` / `natText_append_inj` — **a text or a number is told apart from what follows it.**
-/

namespace ComputeMesh

open ComputeMesh.Text

/-- A JSON value. -/
inductive Json
  | null
  | bool (b : Bool)
  | int (n : ℤ)
  | float (repr : String) (value : Option ℚ)
  | str (text : String)
  | arr (items : List Json)
  | obj (fields : List (String × Json))

namespace Json

/-- One key with its value. -/
def dumpsField (field : String × String) : String := jsonText field.1 ++ ":" ++ field.2

/-- An object, from the texts of its values. -/
def dumpsObject (fields : List (String × String)) : String :=
  "\x7b" ++ ",".intercalate ((fields.insertionSort fun a b => a.1 ≤ b.1).map dumpsField) ++ "\x7d"

mutual

/-- `json.dumps`, compact and with sorted keys. -/
def dumps : Json → String
  | null => "null"
  | bool true => "true"
  | bool false => "false"
  | int n => toString n
  | float repr _ => repr
  | str text => jsonText text
  | arr items => "[" ++ ",".intercalate (dumpsItems items) ++ "]"
  | obj fields => dumpsObject (dumpsFields fields)

def dumpsItems : List Json → List String
  | [] => []
  | item :: rest => dumps item :: dumpsItems rest

def dumpsFields : List (String × Json) → List (String × String)
  | [] => []
  | (key, value) :: rest => (key, dumps value) :: dumpsFields rest

end

/-- `value == n`, for an `int` on the right. -/
def eqInt (n : ℤ) : Json → Bool
  | bool b => decide ((if b then 1 else 0) = n)
  | int k => decide (k = n)
  | float _ value => decide (value = some (n : ℚ))
  | _ => false

/-- `bool(value)`. -/
def truthy : Json → Bool
  | null => false
  | bool b => b
  | int n => n != 0
  | float _ value => decide (value ≠ some 0)
  | str text => text != ""
  | arr items => !items.isEmpty
  | obj fields => !fields.isEmpty

/-- A Python `dict` of values as a value. -/
def ofDict (d : Dict String Json) : Json := obj d.entries

/-! ### Reading the texts back -/

/-- The value of a hexadecimal digit in lower case. -/
def hexValue (c : Char) : ℕ := if c.isDigit then c.toNat - 48 else c.toNat - 87

/-- The first character of the inside of a JSON text, and what follows it. -/
def unescape : List Char → Option (Char × List Char)
  | '\\' :: 'u' :: '0' :: '0' :: a :: b :: rest => some (Char.ofNat (16 * hexValue a + hexValue b), rest)
  | '\\' :: 'n' :: rest => some ('\n', rest)
  | '\\' :: 'r' :: rest => some ('\r', rest)
  | '\\' :: 't' :: rest => some ('\t', rest)
  | '\\' :: 'b' :: rest => some (Char.ofNat 8, rest)
  | '\\' :: 'f' :: rest => some (Char.ofNat 12, rest)
  | '\\' :: c :: rest => some (c, rest)
  | '"' :: _ => none
  | c :: rest => some (c, rest)
  | [] => none

theorem unescape_control {n : ℕ} (h : n < 32) (x : List Char) :
    unescape (['\\', 'u', '0', '0', Nat.digitChar (n / 16), Nat.digitChar (n % 16)] ++ x) =
      some (Char.ofNat n, x) := by
  have hvalue : ∀ k < 32, 16 * hexValue (Nat.digitChar (k / 16)) + hexValue (Nat.digitChar (k % 16)) = k := by
    decide
  show some (Char.ofNat _, x) = some (Char.ofNat n, x)
  rw [hvalue n h]

theorem unescape_jsonChar (c : Char) (x : List Char) : unescape (jsonChar c ++ x) = some (c, x) := by
  unfold jsonChar
  split_ifs with hq hs hn hr ht hb hf hc
  · subst hq; rfl
  · subst hs; rfl
  · subst hn; rfl
  · subst hr; rfl
  · subst ht; rfl
  · rw [← Char.ofNat_toNat c, hb]; rfl
  · rw [← Char.ofNat_toNat c, hf]; rfl
  · rw [unescape_control hc, Char.ofNat_toNat]
  · show unescape (c :: x) = some (c, x)
    unfold unescape
    split <;> simp_all

/-- Encoded characters up to the closing quote, where a reader gives each of them back. -/
theorem encodedChars_append_inj {encode : Char → List Char} {read : List Char → Option (Char × List Char)}
    (hback : ∀ c x, read (encode c ++ x) = some (c, x)) (hquote : ∀ x, read ('"' :: x) = none) {cs ds x y : List Char}
    (h : cs.flatMap encode ++ '"' :: x = ds.flatMap encode ++ '"' :: y) : cs = ds ∧ x = y := by
  have hread := congrArg read h
  induction cs generalizing ds with
  | nil =>
    cases ds with
    | nil => simpa using h
    | cons d ds =>
      rw [List.flatMap_cons, List.append_assoc, hback] at hread
      exact nomatch (hquote x).symm.trans hread
  | cons c cs ih =>
    rw [List.flatMap_cons, List.append_assoc, hback] at hread
    cases ds with
    | nil => exact nomatch hread.trans (hquote y)
    | cons d ds =>
      rw [List.flatMap_cons, List.append_assoc, hback] at hread
      obtain ⟨rfl, hrest⟩ := Prod.mk.inj (Option.some.inj hread)
      obtain ⟨rfl, hxy⟩ := ih hrest (congrArg read hrest)
      exact ⟨rfl, hxy⟩

theorem jsonText_append_inj {a b x y : String} (h : jsonText a ++ x = jsonText b ++ y) : a = b ∧ x = y := by
  have hl := congrArg String.toList h
  simp only [jsonText, String.toList_append, String.toList_ofList, List.cons_append, List.append_assoc,
    List.cons.injEq, true_and, List.nil_append] at hl
  obtain ⟨hab, hxy⟩ := encodedChars_append_inj unescape_jsonChar (fun _ => rfl) hl
  exact ⟨String.toList_injective hab, String.toList_injective hxy⟩

theorem isDigit_natText {n : ℕ} {c : Char} (h : c ∈ (toString n).toList) : c.isDigit = true :=
  Nat.isDigit_of_mem_toDigits (by decide) (by decide) (show c ∈ Nat.toDigits 10 n by simpa using h)

/-- A number and what follows it can be told apart, if that starts with a comma. -/
theorem natText_append_inj {m n : ℕ} {x y : String} (h : toString m ++ ("," ++ x) = toString n ++ ("," ++ y)) :
    m = n ∧ x = y := by
  have htake : ∀ (k : ℕ) (z : String),
      (toString k ++ ("," ++ z)).toList.takeWhile Char.isDigit = (toString k).toList := by
    intro k z
    rw [String.toList_append, List.takeWhile_append_of_pos fun c hc => isDigit_natText hc]
    simp [String.toList_append]
  have hmn : toString m = toString n := by
    apply String.toList_injective
    rw [← htake m x, h, htake]
  rw [hmn] at h
  exact ⟨natRepr_inj hmn, append_left_cancel (append_left_cancel h)⟩

end Json

end ComputeMesh
