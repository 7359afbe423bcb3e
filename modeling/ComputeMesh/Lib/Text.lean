import Mathlib

/-!
# Python text operations

The string methods the modelled code calls, with the meaning the language reference gives them, and the
few facts about concatenation that decide when two formatted strings are equal.

* `strip` removes the characters for which `str.isspace` holds, on both sides; `strip_strip` says that a
  second call changes nothing.
* `lower` follows `str.lower` as far as comparison with ASCII text can tell: ASCII capitals go down, the
  two other characters whose lower case holds an ASCII letter are mapped, and every other character stays
  what it is, outside ASCII before and after.
* `startsWith`, `endsWith`, `hasText` and `lastPart` are `startswith`, `endswith`, `in` and
  `split(sep)[-1]`.
* `isIdentifier` is the pattern of ids and keys.
-/

namespace ComputeMesh.Text

open List String

/-- `str.isspace` for one character. -/
def isSpace (c : Char) : Bool :=
  let n := c.toNat
  (0x9 ≤ n && n ≤ 0xd) || (0x1c ≤ n && n ≤ 0x20) || n == 0x85 || n == 0xa0 || n == 0x1680 ||
    (0x2000 ≤ n && n ≤ 0x200a) || n == 0x2028 || n == 0x2029 || n == 0x202f || n == 0x205f ||
    n == 0x3000

def stripList (cs : List Char) : List Char :=
  (cs.dropWhile isSpace).rdropWhile isSpace

/-- `s.strip()`. -/
def strip (s : String) : String := String.ofList (stripList s.toList)

/-- Lower case of one character, see the head of the file. -/
def lowerChar (c : Char) : List Char :=
  if 'A' ≤ c ∧ c ≤ 'Z' then [Char.ofNat (c.toNat + 32)]
  else if c.toNat = 0x212a then ['k']
  else if c.toNat = 0x130 then ['i', Char.ofNat 0x307]
  else [c]

/-- `s.lower()`. -/
def lower (s : String) : String := String.ofList (s.toList.flatMap lowerChar)

/-- `s.startswith(p)`. -/
def startsWith (s p : String) : Bool := p.toList.isPrefixOf s.toList

/-- `s.endswith(p)`. -/
def endsWith (s p : String) : Bool := p.toList.isSuffixOf s.toList

/-- `sub in s`. -/
def hasText (sub s : String) : Bool := decide (sub.toList <:+: s.toList)

/-- `s.split(sep)[-1]` for a one-character separator. -/
def lastPart (sep : Char) (s : String) : String :=
  String.ofList ((s.toList.reverse.takeWhile fun c => c != sep).reverse)

/-- The first `n` characters, `s[:n]`. -/
def firstChars (n : ℕ) (s : String) : String := String.ofList (s.toList.take n)

/-- `repr(s)` for text without control characters: single quotes, or double quotes if only those avoid
an escape. -/
def quoted (s : String) : String :=
  let useDouble := s.toList.contains '\'' && !s.toList.contains '"'
  let quote := if useDouble then '"' else '\''
  String.ofList (quote :: (s.toList.flatMap fun c =>
    if c = '\\' || (c = quote) then ['\\', c] else [c]) ++ [quote])

/-- One character of a JSON text that `json.dumps` writes with `ensure_ascii=False`. -/
def jsonChar (c : Char) : List Char :=
  if c = '"' then ['\\', '"']
  else if c = '\\' then ['\\', '\\']
  else if c = '\n' then ['\\', 'n']
  else if c = '\r' then ['\\', 'r']
  else if c = '\t' then ['\\', 't']
  else if c.toNat = 8 then ['\\', 'b']
  else if c.toNat = 12 then ['\\', 'f']
  else if c.toNat < 32 then
    ['\\', 'u', '0', '0', Nat.digitChar (c.toNat / 16), Nat.digitChar (c.toNat % 16)]
  else [c]

def jsonText (s : String) : String := String.ofList ('"' :: s.toList.flatMap jsonChar ++ ['"'])

/-- `text or fallback`. -/
def textOr (text fallback : String) : String := if text = "" then fallback else text

/-- The characters that `[A-Za-z0-9_.:-]` matches. -/
def identifierChar (c : Char) : Bool :=
  ('A' ≤ c && c ≤ 'Z') || ('a' ≤ c && c ≤ 'z') || ('0' ≤ c && c ≤ '9') || c ∈ ['_', '.', ':', '-']

/-- `re.fullmatch(r"[A-Za-z0-9_.:-]{1,n}", s)`. -/
def isIdentifier (n : ℕ) (s : String) : Bool :=
  s.toList.all identifierChar && decide (1 ≤ s.toList.length) && decide (s.toList.length ≤ n)

/-! ### Stripping twice -/

theorem dropWhile_stripList (cs : List Char) : (stripList cs).dropWhile isSpace = stripList cs := by
  -- what the front cut leaves is empty or starts with a character that is no space, and the cut at
  -- the back keeps that character
  unfold stripList
  generalize hd : cs.dropWhile isSpace = ds
  cases ds with
  | nil => rfl
  | cons c ds =>
    have hc : isSpace c = false := by
      have hhead := head?_dropWhile_not isSpace cs
      rw [hd] at hhead
      simpa using hhead
    rw [rdropWhile, reverse_cons, dropWhile_append]
    split <;> simp [hc]

theorem stripList_stripList (cs : List Char) : stripList (stripList cs) = stripList cs := by
  show ((stripList cs).dropWhile isSpace).rdropWhile isSpace = stripList cs
  rw [dropWhile_stripList]
  exact rdropWhile_idempotent isSpace _

/-- A second `strip` changes nothing. -/
@[simp] theorem strip_strip (s : String) : strip (strip s) = strip s := by
  simp [strip, stripList_stripList]

/-! ### Equality of formatted strings -/

theorem append_right_cancel {a b c : String} (h : a ++ c = b ++ c) : a = b :=
  (append_left_inj c).mp h

theorem append_left_cancel {a b c : String} (h : c ++ a = c ++ b) : a = b :=
  (append_right_inj c).mp h

theorem append_inj_of_length {a b c d : String} (hlen : b.toList.length = d.toList.length)
    (h : a ++ b = c ++ d) : a = c ∧ b = d := by
  have hl : a.toList ++ b.toList = c.toList ++ d.toList := by
    rw [← toList_append, ← toList_append, h]
  obtain ⟨h₁, h₂⟩ := append_inj' hl hlen
  exact ⟨toList_inj.mp h₁, toList_inj.mp h₂⟩

theorem ne_of_head {s t : String} (h : s.toList.head? ≠ t.toList.head?) : s ≠ t := by
  rintro rfl
  exact h rfl

theorem head_append {p : String} (h : p.toList ≠ []) (s : String) : (p ++ s).toList.head? = p.toList.head? := by
  rw [toList_append, head?_append]
  cases hp : p.toList with
  | nil => exact absurd hp h
  | cons c cs => rfl

/-- Strings whose fixed beginnings differ within their first `n` characters are different. -/
theorem append_ne_append (n : ℕ) {p q : String} (hp : n ≤ p.toList.length) (hq : n ≤ q.toList.length)
    (h : p.toList.take n ≠ q.toList.take n) (s t : String) : p ++ s ≠ q ++ t := by
  intro heq
  have hl := congrArg (fun x : String => x.toList.take n) heq
  simp only [toList_append, take_append_of_le_length hp,
    take_append_of_le_length hq] at hl
  exact h hl

theorem startsWith_append (p s : String) : startsWith (p ++ s) p = true := by
  simp [startsWith]

theorem length_firstChars {n : ℕ} {s : String} (h : n ≤ s.toList.length) : (firstChars n s).toList.length = n := by
  simp only [firstChars, toList_ofList, length_take]
  omega

theorem head_of_startsWith {s p : String} (hp : p.toList ≠ []) (h : startsWith s p = true) :
    s.toList.head? = p.toList.head? := by
  obtain ⟨rest, hrest⟩ := isPrefixOf_iff_prefix.mp h
  rw [← hrest, head?_append_of_ne_nil _ hp]

theorem stripList_of_ends {cs : List Char} (hhead : ∀ c, cs.head? = some c → isSpace c = false)
    (hlast : ∀ c, cs.getLast? = some c → isSpace c = false) : stripList cs = cs := by
  have hdrop : cs.dropWhile isSpace = cs := by
    cases cs with
    | nil => rfl
    | cons c cs => simp [hhead c rfl]
  rw [stripList, hdrop, rdropWhile_eq_self_iff]
  intro hne
  simp [hlast _ (getLast?_eq_getLast_of_ne_nil hne)]

theorem strip_append {p t : String} {c : Char} (hhead : p.toList.head? = some c) (hc : isSpace c = false)
    (hne : t.toList ≠ []) (ht : ∀ c ∈ t.toList, isSpace c = false) : strip (p ++ t) = p ++ t := by
  have hp : p.toList ≠ [] := by
    intro hnil
    rw [hnil] at hhead
    cases hhead
  have hcs : stripList (p ++ t).toList = (p ++ t).toList := by
    apply stripList_of_ends
    · intro d hd
      rw [head_append hp, hhead] at hd
      cases hd
      exact hc
    · intro d hd
      rw [toList_append, getLast?_append_of_ne_nil _ hne] at hd
      exact ht d (mem_of_getLast? hd)
  rw [strip, hcs, ofList_toList]

/-! ### Numbers as text -/

theorem natRepr_inj {m n : ℕ} (h : Nat.repr m = Nat.repr n) : m = n := by
  have hdigits : Nat.toDigits 10 m = Nat.toDigits 10 n := by
    simpa [Nat.repr] using congrArg toList h
  rw [← Nat.ofDigitChars_ten_toDigits (n := m), hdigits, Nat.ofDigitChars_ten_toDigits]

/-- Two numbers that are not negative and are written the same are the same. -/
theorem intText_inj {a b : ℤ} (ha : 0 ≤ a) (hb : 0 ≤ b) (h : toString a = toString b) : a = b := by
  lift a to ℕ using ha
  lift b to ℕ using hb
  exact congrArg Nat.cast (natRepr_inj h)

end ComputeMesh.Text
