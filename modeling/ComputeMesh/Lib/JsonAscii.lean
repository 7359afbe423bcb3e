import ComputeMesh.Lib.Json

/-!
# Flat JSON objects in ASCII

The text that `json.dumps(fields, sort_keys=True, separators=(",", ":"))` makes of an object whose values are numbers,
texts and lists of texts: every character outside ASCII is escaped, one beyond the basic plane as a surrogate pair.

* `asciiText_append_inj` — a text is told apart from what follows it;
* `Leaf.dumps_append_inj` — so is every value;
* `dumpsFlat_injective` — **the text of an object fixes its fields.**
-/

namespace ComputeMesh.JsonAscii

open ComputeMesh.Text ComputeMesh.Json List

/-- Four hexadecimal digits. -/
def hex4 (n : ℕ) : List Char :=
  [Nat.digitChar (n / 4096 % 16), Nat.digitChar (n / 256 % 16), Nat.digitChar (n / 16 % 16), Nat.digitChar (n % 16)]

def unitEscape (n : ℕ) : List Char := '\\' :: 'u' :: hex4 n

/-- One character of a JSON text. -/
def asciiChar (c : Char) : List Char :=
  if c.toNat < 127 then jsonChar c
  else if c.toNat < 0x10000 then unitEscape c.toNat
  else unitEscape (0xd800 + (c.toNat - 0x10000) / 0x400) ++ unitEscape (0xdc00 + (c.toNat - 0x10000) % 0x400)

def asciiText (s : String) : List Char := '"' :: (s.toList.flatMap asciiChar ++ ['"'])

/-! ### Reading a character back -/

/-- The escaped code unit at the start of a text, and what follows it. -/
def readUnit : List Char → Option (ℕ × List Char)
  | '\\' :: 'u' :: a :: b :: c :: d :: rest =>
    some (4096 * hexValue a + 256 * hexValue b + 16 * hexValue c + hexValue d, rest)
  | _ => none

theorem readUnit_unitEscape {n : ℕ} (h : n < 0x10000) (x : List Char) : readUnit (unitEscape n ++ x) = some (n, x) := by
  have hvalue : ∀ k < 16, hexValue (Nat.digitChar k) = k := by decide
  show some (4096 * hexValue _ + 256 * hexValue _ + 16 * hexValue _ + hexValue _, x) = _
  rw [hvalue _ (Nat.mod_lt _ (by decide)), hvalue _ (Nat.mod_lt _ (by decide)), hvalue _ (Nat.mod_lt _ (by decide)),
    hvalue _ (Nat.mod_lt _ (by decide))]
  have hsum : 4096 * (n / 4096 % 16) + 256 * (n / 256 % 16) + 16 * (n / 16 % 16) + n % 16 = n := by omega
  rw [hsum]

/-- The first character of the inside of a JSON text, and what follows it. -/
def readChar (cs : List Char) : Option (Char × List Char) :=
  match readUnit cs with
  | some (unit, rest) =>
    if 0xd800 ≤ unit ∧ unit < 0xdc00 then
      (readUnit rest).map fun low => (Char.ofNat (0x10000 + (unit - 0xd800) * 0x400 + (low.1 - 0xdc00)), low.2)
    else some (Char.ofNat unit, rest)
  | none => unescape cs

theorem readUnit_of_no_u {a b : Char} {x : List Char} (h : a ≠ '\\' ∨ b ≠ 'u') : readUnit (a :: b :: x) = none := by
  unfold readUnit
  split
  · rename_i heq
    obtain ⟨rfl, hrest⟩ := cons.inj heq
    obtain ⟨rfl, -⟩ := cons.inj hrest
    simp at h
  · rfl

theorem readUnit_of_ne {a : Char} {x : List Char} (h : a ≠ '\\') : readUnit (a :: x) = none := by
  unfold readUnit
  split
  · rename_i heq
    exact absurd (cons.inj heq).1 h
  · rfl

theorem readChar_jsonChar {c : Char} (h : c.toNat < 127) (x : List Char) : readChar (jsonChar c ++ x) = some (c, x) := by
  have hback := unescape_jsonChar c x
  unfold readChar
  cases hunit : readUnit (jsonChar c ++ x) with
  | none => exact hback
  | some read =>
    -- the only escape with a code unit is that of a control character
    by_cases hcontrol : jsonChar c = ['\\', 'u', '0', '0', Nat.digitChar (c.toNat / 16), Nat.digitChar (c.toNat % 16)]
    · rw [hcontrol] at hunit
      have hvalue : ∀ k < 16, hexValue (Nat.digitChar k) = k := by decide
      have hread : some (4096 * hexValue '0' + 256 * hexValue '0' + 16 * hexValue (Nat.digitChar (c.toNat / 16))
          + hexValue (Nat.digitChar (c.toNat % 16)), x) = some read := hunit
      rw [hvalue _ (by omega), hvalue _ (Nat.mod_lt _ (by decide))] at hread
      obtain rfl := Option.some.inj hread
      have hzero : hexValue '0' = 0 := by decide
      have hn : 4096 * hexValue '0' + 256 * hexValue '0' + 16 * (c.toNat / 16) + c.toNat % 16 = c.toNat := by
        rw [hzero]
        omega
      dsimp only
      rw [hn, if_neg (by omega), Char.ofNat_toNat]
    · have hnone : readUnit (jsonChar c ++ x) = none := by
        unfold jsonChar at hcontrol ⊢
        split_ifs at hcontrol ⊢ with hq hs hn hr ht hb hf hc
        iterate 7 · exact readUnit_of_no_u (.inr (by decide))
        · exact absurd rfl hcontrol
        · exact readUnit_of_ne hs
      exact nomatch hnone.symm.trans hunit

theorem readChar_asciiChar (c : Char) (x : List Char) : readChar (asciiChar c ++ x) = some (c, x) := by
  unfold asciiChar
  split
  · rename_i hascii
    exact readChar_jsonChar hascii x
  · split
    · rename_i hbasic
      have hvalid : c.toNat < 0xd800 ∨ 0xdfff < c.toNat := by
        rcases c.valid with hlow | ⟨hhigh, -⟩
        · exact .inl hlow
        · exact .inr hhigh
      unfold readChar
      rw [readUnit_unitEscape hbasic]
      dsimp only
      rw [if_neg (by omega), Char.ofNat_toNat]
    · rename_i hascii hastral
      have hmax : c.toNat < 0x110000 := by
        rcases c.valid with hlow | ⟨-, hhigh⟩
        · exact Nat.lt_trans hlow (by decide)
        · exact hhigh
      unfold readChar
      rw [append_assoc, readUnit_unitEscape (by omega)]
      dsimp only
      rw [if_pos (by omega), readUnit_unitEscape (by omega), Option.map_some]
      have hn : 0x10000 + (0xd800 + (c.toNat - 0x10000) / 0x400 - 0xd800) * 0x400
          + (0xdc00 + (c.toNat - 0x10000) % 0x400 - 0xdc00) = c.toNat := by omega
      rw [hn, Char.ofNat_toNat]

theorem asciiText_append_inj {a b : String} {x y : List Char} (h : asciiText a ++ x = asciiText b ++ y) :
    a = b ∧ x = y := by
  have hinside : (a.toList.flatMap asciiChar ++ ['"']) ++ x = (b.toList.flatMap asciiChar ++ ['"']) ++ y :=
    (cons.inj h).2
  rw [append_assoc, append_assoc] at hinside
  obtain ⟨hab, hxy⟩ := encodedChars_append_inj readChar_asciiChar (fun _ => rfl) hinside
  exact ⟨String.toList_injective hab, hxy⟩

/-! ### Objects -/

/-- A value of a flat object. -/
inductive Leaf
  | nat (n : ℕ)
  | text (s : String)
  | texts (items : List String)
  deriving DecidableEq, Repr

def natText (n : ℕ) : List Char := Nat.toDigits 10 n

/-- The texts after the first, and the end of the list. -/
def textsTail : List String → List Char
  | [] => [']']
  | item :: rest => ',' :: (asciiText item ++ textsTail rest)

def Leaf.dumps : Leaf → List Char
  | .nat n => natText n
  | .text s => asciiText s
  | .texts [] => ['[', ']']
  | .texts (item :: rest) => '[' :: (asciiText item ++ textsTail rest)

def dumpsMember (member : String × Leaf) : List Char := asciiText member.1 ++ ':' :: member.2.dumps

/-- The members after the first, and the end of the object. -/
def membersTail : List (String × Leaf) → List Char
  | [] => ['\x7d']
  | member :: rest => ',' :: (dumpsMember member ++ membersTail rest)

def objectText : List (String × Leaf) → List Char
  | [] => ['\x7b', '\x7d']
  | member :: rest => '\x7b' :: (dumpsMember member ++ membersTail rest)

/-- An object, from its members in the order of their names. -/
def dumpsFlat (members : List (String × Leaf)) : String := String.ofList (objectText members)

/-- What follows a value inside an object. -/
def Ends (x : List Char) : Prop := ∃ c rest, x = c :: rest ∧ (c = ',' ∨ c = '\x7d')

theorem ends_membersTail (members : List (String × Leaf)) : Ends (membersTail members) := by
  cases members with
  | nil => exact ⟨_, _, rfl, .inr rfl⟩
  | cons member rest => exact ⟨_, _, rfl, .inl rfl⟩

theorem isDigit_natText {n : ℕ} {c : Char} (h : c ∈ natText n) : c.isDigit = true :=
  Nat.isDigit_of_mem_toDigits (by decide) (by decide) h

theorem natText_ne_nil (n : ℕ) : natText n ≠ [] := Nat.toDigits_ne_nil

theorem natText_append_inj {m n : ℕ} {x y : List Char} (hx : Ends x) (hy : Ends y) (h : natText m ++ x = natText n ++ y) :
    m = n ∧ x = y := by
  have htake : ∀ (k : ℕ) {z : List Char}, Ends z → (natText k ++ z).takeWhile Char.isDigit = natText k := by
    rintro k z ⟨c, rest, rfl, hc⟩
    have hnot : c.isDigit = false := by rcases hc with rfl | rfl <;> decide
    rw [takeWhile_append_of_pos fun c hc => isDigit_natText hc, takeWhile_cons_of_neg (by simp [hnot]),
      append_nil]
  have hmn : natText m = natText n := by rw [← htake m hx, h, htake n hy]
  refine ⟨?_, ?_⟩
  · rw [← Nat.ofDigitChars_ten_toDigits (n := m), ← Nat.ofDigitChars_ten_toDigits (n := n)]
    exact congrArg _ hmn
  · rw [hmn] at h
    exact append_cancel_left h

theorem textsTail_append_inj {items items' : List String} {x y : List Char}
    (h : textsTail items ++ x = textsTail items' ++ y) : items = items' ∧ x = y := by
  induction items generalizing items' with
  | nil =>
    cases items' with
    | nil => exact ⟨rfl, (cons.inj h).2⟩
    | cons item rest => exact absurd (cons.inj h).1 (by decide)
  | cons item rest ih =>
    cases items' with
    | nil => exact absurd (cons.inj h).1 (by decide)
    | cons item' rest' =>
      have hinside : (asciiText item ++ textsTail rest) ++ x = (asciiText item' ++ textsTail rest') ++ y :=
        (cons.inj h).2
      rw [append_assoc, append_assoc] at hinside
      obtain ⟨rfl, htail⟩ := asciiText_append_inj hinside
      obtain ⟨rfl, hxy⟩ := ih htail
      exact ⟨rfl, hxy⟩

/-- The kind of value that starts with the character. -/
def Leaf.opens (c : Char) : Leaf → Prop
  | .nat _ => c.isDigit = true
  | .text _ => c = '"'
  | .texts _ => c = '['

theorem Leaf.head (leaf : Leaf) : ∃ c rest, leaf.dumps = c :: rest ∧ leaf.opens c := by
  cases leaf with
  | nat n =>
    obtain ⟨c, rest, heq⟩ := List.exists_cons_of_ne_nil (natText_ne_nil n)
    exact ⟨c, rest, heq, isDigit_natText (heq ▸ List.mem_cons_self)⟩
  | text s => exact ⟨_, _, rfl, rfl⟩
  | texts items =>
    cases items with
    | nil | cons item rest => exact ⟨_, _, rfl, rfl⟩

theorem Leaf.dumps_append_inj {leaf leaf' : Leaf} {x y : List Char} (hx : Ends x) (hy : Ends y)
    (h : leaf.dumps ++ x = leaf'.dumps ++ y) : leaf = leaf' ∧ x = y := by
  obtain ⟨c, rest, hdumps, hc⟩ := leaf.head
  obtain ⟨c', rest', hdumps', hc'⟩ := leaf'.head
  have hsame : c = c' := by
    rw [hdumps, hdumps'] at h
    exact (List.cons.inj h).1
  subst hsame
  have hdigit : c = '"' ∨ c = '[' → ¬c.isDigit = true := by
    rintro (rfl | rfl)
    · decide
    · decide
  cases leaf with
  | nat n =>
    cases leaf' with
    | nat n' =>
      obtain ⟨rfl, hxy⟩ := natText_append_inj hx hy h
      exact ⟨rfl, hxy⟩
    | text s => exact absurd hc (hdigit (.inl hc'))
    | texts items => exact absurd hc (hdigit (.inr hc'))
  | text s =>
    cases leaf' with
    | nat n' => exact absurd hc' (hdigit (.inl hc))
    | text s' =>
      obtain ⟨rfl, hxy⟩ := asciiText_append_inj h
      exact ⟨rfl, hxy⟩
    | texts items => exact absurd ((show c = '"' from hc).symm.trans hc') (by decide)
  | texts items =>
    cases leaf' with
    | nat n' => exact absurd hc' (hdigit (.inr hc))
    | text s' => exact absurd ((show c = '[' from hc).symm.trans hc') (by decide)
    | texts items' =>
      cases items with
      | nil =>
        cases items' with
        | nil => exact ⟨rfl, (List.cons.inj (List.cons.inj h).2).2⟩
        | cons item' rest' => exact absurd (List.cons.inj (List.cons.inj h).2).1 (by decide)
      | cons item rest =>
        cases items' with
        | nil => exact absurd (List.cons.inj (List.cons.inj h).2).1 (by decide)
        | cons item' rest' =>
          have hinside : (asciiText item ++ textsTail rest) ++ x = (asciiText item' ++ textsTail rest') ++ y :=
            (List.cons.inj h).2
          rw [List.append_assoc, List.append_assoc] at hinside
          obtain ⟨rfl, htail⟩ := asciiText_append_inj hinside
          obtain ⟨rfl, hxy⟩ := textsTail_append_inj htail
          exact ⟨rfl, hxy⟩

theorem dumpsMember_append_inj {member member' : String × Leaf} {x y : List Char} (hx : Ends x) (hy : Ends y)
    (h : dumpsMember member ++ x = dumpsMember member' ++ y) : member = member' ∧ x = y := by
  unfold dumpsMember at h
  rw [List.append_assoc, List.append_assoc] at h
  obtain ⟨hname, hrest⟩ := asciiText_append_inj h
  obtain ⟨hvalue, hxy⟩ := Leaf.dumps_append_inj hx hy (List.cons.inj hrest).2
  exact ⟨Prod.ext hname hvalue, hxy⟩

theorem membersTail_injective {members members' : List (String × Leaf)} (h : membersTail members = membersTail members') :
    members = members' := by
  induction members generalizing members' with
  | nil =>
    cases members' with
    | nil => rfl
    | cons member' rest' => exact absurd (List.cons.inj h).1 (by decide)
  | cons member rest ih =>
    cases members' with
    | nil => exact absurd (List.cons.inj h).1 (by decide)
    | cons member' rest' =>
      obtain ⟨rfl, htail⟩ := dumpsMember_append_inj (ends_membersTail rest) (ends_membersTail rest') (List.cons.inj h).2
      rw [ih htail]

theorem objectText_injective {members members' : List (String × Leaf)} (h : objectText members = objectText members') :
    members = members' := by
  cases members with
  | nil =>
    cases members' with
    | nil => rfl
    | cons member' rest' => exact absurd (List.cons.inj (List.cons.inj h).2).1 (by decide)
  | cons member rest =>
    cases members' with
    | nil => exact absurd (List.cons.inj (List.cons.inj h).2).1 (by decide)
    | cons member' rest' =>
      obtain ⟨rfl, htail⟩ := dumpsMember_append_inj (ends_membersTail rest) (ends_membersTail rest') (List.cons.inj h).2
      rw [membersTail_injective htail]

/-- **The text of an object fixes its members.** -/
theorem dumpsFlat_injective : Function.Injective dumpsFlat := by
  intro members members' h
  have hlist := congrArg String.toList h
  rw [dumpsFlat, dumpsFlat, String.toList_ofList, String.toList_ofList] at hlist
  exact objectText_injective hlist

end ComputeMesh.JsonAscii
