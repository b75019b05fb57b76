import LineShell.Text.Utf8

/-!
Decoding undoes encoding, and a newline is a place where bytes may be cut: no character goes on
beyond it, so that what comes before it and what comes after it are decoded on their own.

  - `decode_char` / `decode_encode`: a character, and so a text, is read back as it was.
  - `decode_newline`: in any state, a newline ends the character begun and is read as itself.
  - `decode_append`: the text of bytes that end with a newline, and more bytes behind them.
-/

namespace LineShell.Utf8

theorem encode_nil : encode [] = [] := rfl

theorem encode_append (a b : Text) : encode (a ++ b) = encode a ++ encode b := List.flatMap_append

theorem encode_cons (c : Char) (r : Text) : encode (c :: r) = String.utf8EncodeChar c ++ encode r := List.flatMap_cons

/-! ## A character -/

/-- What a first octet with the leading bits `h` of a character makes of the decoder. -/
theorem lead_one : ∀ v < 128, lead (UInt8.ofNat v) = ([Char.ofNat v], .between) := by decide

theorem lead_two : ∀ h < 32, 2 ≤ h → lead (UInt8.ofNat (h + 0xC0)) = ([], .inside 0 0x80 0xBF h) := by decide

theorem lead_three : ∀ h < 16, lead (UInt8.ofNat (h + 0xE0)) =
    ([], .inside 1 (if h = 0 then 0xA0 else 0x80) (if h = 13 then 0x9F else 0xBF) h) := by decide

theorem lead_four : ∀ h < 5, lead (UInt8.ofNat (h + 0xF0)) =
    ([], .inside 2 (if h = 0 then 0x90 else 0x80) (if h = 4 then 0x8F else 0xBF) h) := by decide

theorem toNat_tail {t : Nat} (ht : t < 64) : (UInt8.ofNat (t + 0x80)).toNat = t + 0x80 := by
  rw [UInt8.toNat_ofNat']
  omega

/-- An octet that may come next adds its six bits. -/
theorem read_tail {more t value : Nat} {low high : UInt8} (ht : t < 64) (hlow : low.toNat ≤ t + 0x80)
    (hhigh : t + 0x80 ≤ high.toNat) :
    (State.inside more low high value).read (UInt8.ofNat (t + 0x80)) =
      match more with
      | 0 => ([Char.ofNat (value * 64 + t)], .between)
      | n + 1 => ([], .inside n 0x80 0xBF (value * 64 + t)) := by
  have hoctet := toNat_tail ht
  have hin : (decide (low ≤ UInt8.ofNat (t + 0x80)) && decide (UInt8.ofNat (t + 0x80) ≤ high)) = true := by
    simp only [UInt8.le_iff_toNat_le, hoctet, hlow, hhigh, decide_true, Bool.and_self]
  cases more with
  | zero => simp only [State.read, hin, if_true, hoctet, Nat.add_sub_cancel]
  | succ n => simp only [State.read, hin, if_true, hoctet, Nat.add_sub_cancel]

theorem decode_cons (s : State) (b : UInt8) (r : Bytes) : s.decode (b :: r) = (s.read b).1 ++ (s.read b).2.decode r := rfl

/-- The last octet of a character completes it. -/
theorem decode_last {t value : Nat} {low high : UInt8} (ht : t < 64) (hlow : low.toNat ≤ t + 0x80)
    (hhigh : t + 0x80 ≤ high.toNat) (r : Bytes) :
    (State.inside 0 low high value).decode (UInt8.ofNat (t + 0x80) :: r) =
      Char.ofNat (value * 64 + t) :: State.between.decode r := by
  rw [decode_cons, read_tail ht hlow hhigh]
  rfl

theorem decode_inner {more t value : Nat} {low high : UInt8} (ht : t < 64) (hlow : low.toNat ≤ t + 0x80)
    (hhigh : t + 0x80 ≤ high.toNat) (r : Bytes) :
    (State.inside (more + 1) low high value).decode (UInt8.ofNat (t + 0x80) :: r) =
      (State.inside more 0x80 0xBF (value * 64 + t)).decode r := by
  rw [decode_cons, read_tail ht hlow hhigh]
  rfl

theorem decode_lead {b : UInt8} {s : State} (h : lead b = ([], s)) (r : Bytes) :
    State.between.decode (b :: r) = s.decode r := by
  rw [decode_cons, State.read, h]
  rfl

theorem toNat_char (c : Char) : c.toNat < 0xD800 ∨ (0xDFFF < c.toNat ∧ c.toNat < 0x110000) := c.valid

theorem decode_char (c : Char) (r : Bytes) :
    State.between.decode (String.utf8EncodeChar c ++ r) = c :: State.between.decode r := by
  have hvalid := toNat_char c
  have hchar : Char.ofNat c.toNat = c := Char.ofNat_toNat c
  have hval : c.val.toNat = c.toNat := rfl
  simp only [String.utf8EncodeChar, hval]
  generalize c.toNat = v at hvalid hchar
  by_cases h1 : v ≤ 0x7F
  · rw [if_pos h1, List.singleton_append, decode_cons, State.read, lead_one v (by omega), hchar]
    rfl
  by_cases h2 : v ≤ 0x7FF
  · have hlast : v / 64 % 32 * 64 + v % 64 = v := by omega
    rw [if_neg h1, if_pos h2, List.cons_append, List.singleton_append,
      decode_lead (lead_two (v / 64 % 32) (by omega) (by omega)),
      decode_last (by omega) (show 0x80 ≤ v % 64 + 0x80 by omega) (show v % 64 + 0x80 ≤ 0xBF by omega), hlast, hchar]
  by_cases h3 : v ≤ 0xFFFF
  · have hlast : (v / 4096 % 16 * 64 + v / 64 % 64) * 64 + v % 64 = v := by omega
    have hlow : (if v / 4096 % 16 = 0 then (0xA0 : UInt8) else 0x80).toNat ≤ v / 64 % 64 + 0x80 := by
      split
      · show 0xA0 ≤ _
        omega
      · exact Nat.le_add_left _ _
    have hhigh : v / 64 % 64 + 0x80 ≤ (if v / 4096 % 16 = 13 then (0x9F : UInt8) else 0xBF).toNat := by
      split
      · show _ ≤ 0x9F
        omega
      · show _ ≤ 0xBF
        omega
    rw [if_neg h1, if_neg h2, if_pos h3, List.cons_append, List.cons_append, List.singleton_append,
      decode_lead (lead_three (v / 4096 % 16) (by omega)), decode_inner (by omega) hlow hhigh,
      decode_last (by omega) (show 0x80 ≤ v % 64 + 0x80 by omega) (show v % 64 + 0x80 ≤ 0xBF by omega), hlast, hchar]
  · have hlast : ((v / 262144 % 8 * 64 + v / 4096 % 64) * 64 + v / 64 % 64) * 64 + v % 64 = v := by omega
    have hlow : (if v / 262144 % 8 = 0 then (0x90 : UInt8) else 0x80).toNat ≤ v / 4096 % 64 + 0x80 := by
      split
      · show 0x90 ≤ _
        omega
      · exact Nat.le_add_left _ _
    have hhigh : v / 4096 % 64 + 0x80 ≤ (if v / 262144 % 8 = 4 then (0x8F : UInt8) else 0xBF).toNat := by
      split
      · show _ ≤ 0x8F
        omega
      · show _ ≤ 0xBF
        omega
    rw [if_neg h1, if_neg h2, if_neg h3, List.cons_append, List.cons_append, List.cons_append, List.singleton_append,
      decode_lead (lead_four (v / 262144 % 8) (by omega)), decode_inner (by omega) hlow hhigh,
      decode_inner (by omega) (show 0x80 ≤ v / 64 % 64 + 0x80 by omega) (show v / 64 % 64 + 0x80 ≤ 0xBF by omega),
      decode_last (by omega) (show 0x80 ≤ v % 64 + 0x80 by omega) (show v % 64 + 0x80 ≤ 0xBF by omega), hlast, hchar]

theorem decode_encode (text : Text) : decode (encode text) = text := by
  induction text with
  | nil => rfl
  | cons c r ih => rw [encode_cons, decode, decode_char, ← decode, ih]

theorem encode_inj {a b : Text} (h : encode a = encode b) : a = b := by
  rw [← decode_encode a, h, decode_encode]

/-! ## A newline -/

def newline : UInt8 := 10

/-- The state can be reached: no octet of ASCII goes on with a character. -/
def State.Reachable : State → Prop
  | .between => True
  | .inside _ low _ _ => 0x80 ≤ low

theorem reachable_lead (b : UInt8) : (lead b).2.Reachable := by
  unfold lead
  repeat' split
  all_goals simp [State.Reachable]

theorem State.Reachable.read {s : State} (b : UInt8) : (s.read b).2.Reachable := by
  cases s with
  | between => exact reachable_lead b
  | inside more low high value =>
    rw [State.read]
    split
    · cases more with
      | zero => trivial
      | succ more => exact UInt8.le_refl 0x80
    · exact reachable_lead b

/-- A newline ends the character begun, if there is one, and is read as itself. -/
theorem decode_newline {s : State} (h : s.Reachable) (r : Bytes) :
    s.decode (newline :: r) = s.finish ++ '\n' :: State.between.decode r := by
  cases s with
  | between => rfl
  | inside more low high value =>
    have hout : (decide (low ≤ newline) && decide (newline ≤ high)) = false := by
      have hlow : ¬ low ≤ newline := by
        intro hle
        exact absurd (UInt8.le_trans h hle) (by decide)
      rw [decide_eq_false hlow, Bool.false_and]
    rw [decode_cons, State.read, hout]
    rfl

theorem State.decode_append_newline {s : State} (h : s.Reachable) (a b : Bytes) :
    s.decode (a ++ newline :: b) = s.decode a ++ '\n' :: State.between.decode b := by
  induction a generalizing s with
  | nil => exact decode_newline h b
  | cons x a ih => rw [List.cons_append, decode_cons, decode_cons, ih (State.Reachable.read x), List.append_assoc]

theorem decode_append_newline (a b : Bytes) : decode (a ++ newline :: b) = decode a ++ '\n' :: decode b :=
  State.decode_append_newline (s := .between) trivial a b

/-- The bytes are no line, or their last line is complete. -/
def Complete (data : Bytes) : Prop := data = [] ∨ data.getLast? = some newline

instance (data : Bytes) : Decidable (Complete data) := inferInstanceAs (Decidable (_ ∨ _))

theorem complete_cases {data : Bytes} (h : Complete data) : data = [] ∨ ∃ a, data = a ++ [newline] := by
  rcases h with h | h
  · exact Or.inl h
  · exact Or.inr (List.getLast?_eq_some_iff.mp h)

/-- What ends with a newline is decoded on its own. -/
theorem decode_append {a : Bytes} (h : Complete a) (b : Bytes) : decode (a ++ b) = decode a ++ decode b := by
  rcases complete_cases h with rfl | ⟨a, rfl⟩
  · rfl
  · rw [List.append_assoc, List.singleton_append, decode_append_newline, decode_append_newline, List.append_assoc]
    rfl

end LineShell.Utf8
