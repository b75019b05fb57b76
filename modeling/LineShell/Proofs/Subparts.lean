import LineShell.Proofs.Decoding
import Mathlib.Data.Nat.Find

/-!
What decoding makes of bytes that are no text. Any byte string falls into parts: characters, and where no
character stands, as many octets as the longest start of one, or a single octet that starts none. Decoding
reads the characters and gives one replacement character for each other part.

  - `Begins`: the octets are the start of some character's, or all of them.
  - `Splits`: the parts of a byte string; `exists_splits`: it has such parts.
  - `begins_of_pending` / `begins_step_iff`: the decoder is inside a character exactly while the octets
    read since its first one begin one.
  - `decode_broken` / `decode_splits`: what is decoded, part by part.
-/

namespace LineShell.Utf8

/-! ## Parts -/

/-- The octets are the start of a character's octets, or all of them. -/
def Begins (bytes : Bytes) : Prop := ∃ c, bytes <+: String.utf8EncodeChar c

inductive Part where
  | char (c : Char)
  /-- Octets that are no character. -/
  | broken (bytes : Bytes)
  deriving DecidableEq, Repr

def Part.read : Part → Char
  | char c => c
  | broken _ => replacement

/-- At the start of `bytes ++ rest` there is no character, and `bytes` is the longest start of one that
there is, or a single octet if there is none. -/
structure Subpart (bytes rest : Bytes) : Prop where
  broken : ∀ c, ¬ String.utf8EncodeChar c <+: bytes ++ rest
  nonempty : bytes ≠ []
  begins : Begins bytes ∨ bytes.length = 1
  longest : ∀ start, start <+: bytes ++ rest → Begins start → start.length ≤ bytes.length

inductive Splits : Bytes → List Part → Prop
  | nil : Splits [] []
  | char (c : Char) {rest : Bytes} {parts : List Part} (h : Splits rest parts) :
      Splits (String.utf8EncodeChar c ++ rest) (.char c :: parts)
  | broken {bytes rest : Bytes} {parts : List Part} (hbytes : Subpart bytes rest) (h : Splits rest parts) :
      Splits (bytes ++ rest) (.broken bytes :: parts)

theorem Begins.take {a b : Bytes} (h : Begins (a ++ b)) : Begins a := by
  obtain ⟨c, hc⟩ := h
  exact ⟨c, (List.prefix_append a b).trans hc⟩

/-- There is always a longest start. -/
theorem exists_subpart {data : Bytes} (hne : data ≠ []) (hbroken : ∀ c, ¬ String.utf8EncodeChar c <+: data) :
    ∃ bytes rest, data = bytes ++ rest ∧ Subpart bytes rest := by
  classical
  let P := fun n => n = 1 ∨ Begins (data.take n)
  let n := Nat.findGreatest P data.length
  have hlen : 1 ≤ data.length := List.length_pos_iff.mpr hne
  have hn : P n := Nat.findGreatest_spec hlen (Or.inl rfl)
  have hpos : 1 ≤ n := Nat.le_findGreatest hlen (Or.inl rfl)
  have hle : n ≤ data.length := Nat.findGreatest_le data.length
  have hall : data = data.take n ++ data.drop n := (List.take_append_drop n data).symm
  have htaken : (data.take n).length = n := List.length_take_of_le hle
  refine ⟨data.take n, data.drop n, hall, ?_, ?_, ?_, ?_⟩
  · rwa [← hall]
  · intro hnil
    rw [hnil] at htaken
    exact absurd (htaken ▸ hpos) (by decide)
  · rw [htaken]
    exact hn.symm
  · intro start hstart hbegins
    rw [← hall] at hstart
    rw [htaken]
    have htake : data.take start.length = start := (List.prefix_iff_eq_take.mp hstart).symm
    exact Nat.le_findGreatest hstart.length_le (Or.inr (by rwa [htake]))

theorem exists_splits (data : Bytes) : ∃ parts, Splits data parts := by
  induction hn : data.length using Nat.strongRecOn generalizing data with
  | ind n ih =>
    by_cases hne : data = []
    · exact ⟨[], hne ▸ .nil⟩
    by_cases hchar : ∃ c, String.utf8EncodeChar c <+: data
    · obtain ⟨c, rest, rfl⟩ := hchar
      have hpos : 0 < (String.utf8EncodeChar c).length := List.length_pos_iff.mpr String.utf8EncodeChar_ne_nil
      obtain ⟨parts, hparts⟩ := ih rest.length (by rw [← hn, List.length_append]; omega) rest rfl
      exact ⟨_, .char c hparts⟩
    · obtain ⟨bytes, rest, rfl, hsub⟩ := exists_subpart hne (not_exists.mp hchar)
      have hpos : 0 < bytes.length := List.length_pos_iff.mpr hsub.nonempty
      obtain ⟨parts, hparts⟩ := ih rest.length (by rw [← hn, List.length_append]; omega) rest rfl
      exact ⟨_, .broken hsub hparts⟩

/-! ## Octets of a character -/

theorem lead_tail : ∀ v < 66, lead (UInt8.ofNat (v + 0x80)) = ([replacement], .between) := by decide

theorem lead_large : ∀ v < 11, lead (UInt8.ofNat (v + 0xF5)) = ([replacement], .between) := by decide

/-- What a first octet can be: a character by itself, the first of two, three or four, or nothing. -/
theorem lead_cases (b : UInt8) :
    (∃ v < 128, b = UInt8.ofNat v) ∨ (∃ h, 2 ≤ h ∧ h < 32 ∧ b = UInt8.ofNat (h + 0xC0)) ∨
      (∃ h < 16, b = UInt8.ofNat (h + 0xE0)) ∨ (∃ h < 5, b = UInt8.ofNat (h + 0xF0)) ∨
      lead b = ([replacement], .between) := by
  have hb : b = UInt8.ofNat b.toNat := UInt8.ofNat_toNat.symm
  have hlt : b.toNat < 256 := b.toNat_lt
  generalize b.toNat = v at hb hlt
  have hfrom : ∀ base ≤ v, b = UInt8.ofNat (v - base + base) := by
    intro base hbase
    rw [Nat.sub_add_cancel hbase]
    exact hb
  by_cases h1 : v < 0x80
  · exact Or.inl ⟨v, h1, hb⟩
  by_cases h2 : v < 0xC2
  · have hlead := lead_tail (v - 0x80) (by omega)
    rw [← hfrom 0x80 (by omega)] at hlead
    exact Or.inr (Or.inr (Or.inr (Or.inr hlead)))
  by_cases h3 : v < 0xE0
  · exact Or.inr (Or.inl ⟨v - 0xC0, by omega, by omega, hfrom 0xC0 (by omega)⟩)
  by_cases h4 : v < 0xF0
  · exact Or.inr (Or.inr (Or.inl ⟨v - 0xE0, by omega, hfrom 0xE0 (by omega)⟩))
  by_cases h5 : v < 0xF5
  · exact Or.inr (Or.inr (Or.inr (Or.inl ⟨v - 0xF0, by omega, hfrom 0xF0 (by omega)⟩)))
  · have hlead := lead_large (v - 0xF5) (by omega)
    rw [← hfrom 0xF5 (by omega)] at hlead
    exact Or.inr (Or.inr (Or.inr (Or.inr hlead)))

theorem toNat_val_ofNat {v : Nat} (h : v < 0xD800 ∨ (0xDFFF < v ∧ v < 0x110000)) : (Char.ofNat v).val.toNat = v := by
  have hvalid : v.isValidChar := h
  rw [Char.ofNat, dif_pos hvalid]
  rfl

theorem encode_one {v : Nat} (h : v < 128) : String.utf8EncodeChar (Char.ofNat v) = [UInt8.ofNat v] := by
  have hval := toNat_val_ofNat (show v < 0xD800 ∨ _ from Or.inl (by omega))
  simp only [String.utf8EncodeChar, hval]
  rw [if_pos (by omega)]

theorem encode_two {h t : Nat} (hlow : 2 ≤ h) (hh : h < 32) (ht : t < 64) :
    String.utf8EncodeChar (Char.ofNat (h * 64 + t)) = [UInt8.ofNat (h + 0xC0), UInt8.ofNat (t + 0x80)] := by
  have hval := toNat_val_ofNat (show h * 64 + t < 0xD800 ∨ _ from Or.inl (by omega))
  have h1 : (h * 64 + t) / 64 % 32 = h := by omega
  have h2 : (h * 64 + t) % 64 = t := by omega
  simp only [String.utf8EncodeChar, hval]
  rw [if_neg (by omega), if_pos (by omega), h1, h2]

theorem encode_three {h t u : Nat} (hh : h < 16) (ht : t < 64) (hu : u < 64) (hlong : h = 0 → 0x20 ≤ t)
    (hsurrogate : h = 13 → t < 0x20) :
    String.utf8EncodeChar (Char.ofNat ((h * 64 + t) * 64 + u)) =
      [UInt8.ofNat (h + 0xE0), UInt8.ofNat (t + 0x80), UInt8.ofNat (u + 0x80)] := by
  have hvalid : (h * 64 + t) * 64 + u < 0xD800 ∨
      (0xDFFF < (h * 64 + t) * 64 + u ∧ (h * 64 + t) * 64 + u < 0x110000) := by
    omega
  have hval := toNat_val_ofNat hvalid
  have h1 : ((h * 64 + t) * 64 + u) / 4096 % 16 = h := by omega
  have h2 : ((h * 64 + t) * 64 + u) / 64 % 64 = t := by omega
  have h3 : ((h * 64 + t) * 64 + u) % 64 = u := by omega
  simp only [String.utf8EncodeChar, hval]
  rw [if_neg (by omega), if_neg (by omega), if_pos (by omega), h1, h2, h3]

theorem encode_four {h t u w : Nat} (hh : h < 5) (ht : t < 64) (hu : u < 64) (hw : w < 64) (hlong : h = 0 → 0x10 ≤ t)
    (hlarge : h = 4 → t < 0x10) :
    String.utf8EncodeChar (Char.ofNat (((h * 64 + t) * 64 + u) * 64 + w)) =
      [UInt8.ofNat (h + 0xF0), UInt8.ofNat (t + 0x80), UInt8.ofNat (u + 0x80), UInt8.ofNat (w + 0x80)] := by
  have hvalid : ((h * 64 + t) * 64 + u) * 64 + w < 0xD800 ∨
      (0xDFFF < ((h * 64 + t) * 64 + u) * 64 + w ∧ ((h * 64 + t) * 64 + u) * 64 + w < 0x110000) := by
    omega
  have hval := toNat_val_ofNat hvalid
  have h1 : (((h * 64 + t) * 64 + u) * 64 + w) / 262144 % 8 = h := by omega
  have h2 : (((h * 64 + t) * 64 + u) * 64 + w) / 4096 % 64 = t := by omega
  have h3 : (((h * 64 + t) * 64 + u) * 64 + w) / 64 % 64 = u := by omega
  have h4 : (((h * 64 + t) * 64 + u) * 64 + w) % 64 = w := by omega
  simp only [String.utf8EncodeChar, hval]
  rw [if_neg (by omega), if_neg (by omega), if_neg (by omega), h1, h2, h3, h4]

/-- The decoder has read these octets of a character and waits for more of it. -/
inductive Pending : Bytes → (more : Nat) → (low high : UInt8) → (value : Nat) → Prop
  | lead {b : UInt8} {more value : Nat} {low high : UInt8} (h : lead b = ([], .inside more low high value)) :
      Pending [b] more low high value
  | tail {bytes : Bytes} {more value t : Nat} {low high : UInt8} (h : Pending bytes (more + 1) low high value)
      (ht : t < 64) (hlow : low.toNat ≤ t + 0x80) (hhigh : t + 0x80 ≤ high.toNat) :
      Pending (bytes ++ [UInt8.ofNat (t + 0x80)]) more 0x80 0xBF (value * 64 + t)

variable {bytes : Bytes} {more value : Nat} {low high b : UInt8}

theorem decode_pending (h : Pending bytes more low high value) (rest : Bytes) :
    decode (bytes ++ rest) = (State.inside more low high value).decode rest := by
  induction h generalizing rest with
  | lead h => exact decode_lead h rest
  | tail h ht hlow hhigh ih =>
    rw [List.append_assoc, ih, List.singleton_append, decode_inner ht hlow hhigh]

/-- What is known of a first octet that leaves the decoder inside a character. -/
theorem lead_inside (h : lead b = ([], .inside more low high value)) :
    (more = 0 ∧ b = UInt8.ofNat (value + 0xC0) ∧ 2 ≤ value ∧ value < 32 ∧ low = 0x80 ∧ high = 0xBF) ∨
      (more = 1 ∧ b = UInt8.ofNat (value + 0xE0) ∧ value < 16 ∧ low = (if value = 0 then 0xA0 else 0x80) ∧
        high = if value = 13 then 0x9F else 0xBF) ∨
      (more = 2 ∧ b = UInt8.ofNat (value + 0xF0) ∧ value < 5 ∧ low = (if value = 0 then 0x90 else 0x80) ∧
        high = if value = 4 then 0x8F else 0xBF) := by
  rcases lead_cases b with ⟨v, hv, rfl⟩ | ⟨v, hlow, hv, rfl⟩ | ⟨v, hv, rfl⟩ | ⟨v, hv, rfl⟩ | hreplaced
  · rw [lead_one v hv] at h
    cases h
  · rw [lead_two v hv hlow] at h
    cases h
    exact Or.inl ⟨rfl, rfl, hlow, hv, rfl, rfl⟩
  · rw [lead_three v hv] at h
    cases h
    exact Or.inr (Or.inl ⟨rfl, rfl, hv, rfl, rfl⟩)
  · rw [lead_four v hv] at h
    cases h
    exact Or.inr (Or.inr ⟨rfl, rfl, hv, rfl, rfl⟩)
  · rw [hreplaced] at h
    cases h

/-- The decoder never waits for more than the fourth octet, and there is always one that it takes. -/
theorem pending_bounds (h : Pending bytes more low high value) :
    more + bytes.length ≤ 3 ∧ bytes ≠ [] ∧ 0x80 ≤ low.toNat ∧ low.toNat ≤ high.toNat ∧ high.toNat ≤ 0xBF := by
  induction h with
  | lead h =>
    rcases lead_inside h with ⟨rfl, -, -, -, rfl, rfl⟩ | ⟨rfl, -, -, rfl, rfl⟩ | ⟨rfl, -, -, rfl, rfl⟩
    · exact ⟨by simp, by simp, by decide⟩
    · refine ⟨by simp, by simp, ?_⟩
      split <;> split <;> simp_all
    · refine ⟨by simp, by simp, ?_⟩
      split <;> split <;> simp_all
  | tail h _ _ _ ih =>
    obtain ⟨hlen, -⟩ := ih
    refine ⟨?_, by simp, by decide⟩
    rw [List.length_append, List.length_singleton]
    omega

/-- An octet in the bounds goes on with the character by its six bits. -/
theorem exists_tail (h : Pending bytes more low high value) (hlow : low ≤ b) (hhigh : b ≤ high) :
    ∃ t < 64, b = UInt8.ofNat (t + 0x80) ∧ low.toNat ≤ t + 0x80 ∧ t + 0x80 ≤ high.toNat := by
  obtain ⟨-, -, hleast, -, hmost⟩ := pending_bounds h
  rw [UInt8.le_iff_toNat_le] at hlow hhigh
  refine ⟨b.toNat - 0x80, by omega, ?_, by omega, by omega⟩
  rw [Nat.sub_add_cancel (by omega), UInt8.ofNat_toNat]

/-- The last octet that the decoder waits for makes the octets those of a character. -/
theorem encodes_of_pending (h : Pending bytes 0 low high value) (hlow : low ≤ b) (hhigh : b ≤ high) :
    ∃ c, String.utf8EncodeChar c = bytes ++ [b] := by
  obtain ⟨t, ht, rfl, hlow, hhigh⟩ := exists_tail h hlow hhigh
  cases h with
  | lead h =>
    rcases lead_inside h with ⟨-, rfl, htwo, hlt, rfl, rfl⟩ | ⟨hmore, -⟩ | ⟨hmore, -⟩
    · exact ⟨_, encode_two htwo hlt ht⟩
    · cases hmore
    · cases hmore
  | tail h hu hleast hmost =>
    cases h with
    | lead h =>
      rcases lead_inside h with ⟨hmore, -⟩ | ⟨-, rfl, hlt, rfl, rfl⟩ | ⟨hmore, -⟩
      · cases hmore
      · refine ⟨_, encode_three hlt hu ht (fun hzero => ?_) (fun hlast => ?_)⟩
        · rw [if_pos hzero] at hleast
          exact Nat.le_of_add_le_add_right (show 0x20 + 0x80 ≤ _ from hleast)
        · rw [if_pos hlast] at hmost
          exact Nat.lt_of_add_lt_add_right (Nat.lt_succ_of_le (show _ ≤ 0x9F from hmost))
      · cases hmore
    | tail h hw hleast' hmost' =>
      cases h with
      | lead h =>
        rcases lead_inside h with ⟨hmore, -⟩ | ⟨hmore, -⟩ | ⟨-, rfl, hlt, rfl, rfl⟩
        · cases hmore
        · cases hmore
        · refine ⟨_, encode_four hlt hw hu ht (fun hzero => ?_) (fun hlast => ?_)⟩
          · rw [if_pos hzero] at hleast'
            exact Nat.le_of_add_le_add_right (show 0x10 + 0x80 ≤ _ from hleast')
          · rw [if_pos hlast] at hmost'
            exact Nat.lt_of_add_lt_add_right (Nat.lt_succ_of_le (show _ ≤ 0x8F from hmost'))
      | tail h _ _ _ =>
        obtain ⟨hlen, hne, -⟩ := pending_bounds h
        have hpos := List.length_pos_iff.mpr hne
        omega

/-- While the decoder waits, the octets that it has read begin a character. -/
theorem begins_of_pending (h : Pending bytes more low high value) : Begins bytes := by
  obtain ⟨-, -, -, hrange, -⟩ := pending_bounds h
  have hhigh : low ≤ high := UInt8.le_iff_toNat_le.mpr hrange
  induction more generalizing bytes low high value with
  | zero =>
    obtain ⟨c, hc⟩ := encodes_of_pending h (UInt8.le_refl low) hhigh
    exact ⟨c, _, hc.symm⟩
  | succ more ih =>
    obtain ⟨t, ht, -, hlow, hhigh⟩ := exists_tail h (UInt8.le_refl low) hhigh
    have hnext := h.tail ht hlow hhigh
    exact (ih hnext (by decide) (by decide)).take

/-- An octet that does not go on ends the character begun and is read afresh. -/
theorem decode_outside (hout : ¬ (low ≤ b ∧ b ≤ high)) (rest : Bytes) :
    (State.inside more low high value).decode (b :: rest) = replacement :: decode (b :: rest) := by
  have hfalse : (decide (low ≤ b) && decide (b ≤ high)) = false := by
    rw [Bool.eq_false_iff]
    intro hin
    rw [Bool.and_eq_true, decide_eq_true_eq, decide_eq_true_eq] at hin
    exact hout hin
  rw [decode_cons, State.read, hfalse]
  rfl

/-- An octet behind which the decoder is between characters gives one. -/
theorem read_ne_nil {s : State} (h : (s.read b).2 = .between) : (s.read b).1 ≠ [] := by
  have hlead : (lead b).2 = .between → (lead b).1 ≠ [] := by
    unfold lead
    repeat' split
    all_goals simp
  cases s with
  | between => exact hlead h
  | inside more low high value =>
    rw [State.read] at h ⊢
    split
    · cases more with
      | zero => exact List.cons_ne_nil _ _
      | succ more =>
        rename_i hin
        rw [if_pos hin] at h
        cases h
    · exact List.cons_ne_nil _ _

theorem eq_nil_of_decode {s : State} {data : Bytes} (h : s.decode data = []) : s = .between ∧ data = [] := by
  induction data generalizing s with
  | nil =>
    cases s with
    | between => exact ⟨rfl, rfl⟩
    | inside => cases h
  | cons b rest ih =>
    rw [decode_cons, List.append_eq_nil_iff] at h
    obtain ⟨hnone, hrest⟩ := h
    exact absurd hnone (read_ne_nil (ih hrest).1)

theorem decode_whole (c : Char) : decode (String.utf8EncodeChar c) = [c] := by
  rw [← List.append_nil (String.utf8EncodeChar c)]
  exact decode_char c []

/-- The octets of a character do not begin those of another. -/
theorem eq_nil_of_begins {c : Char} {next : Bytes} (h : Begins (String.utf8EncodeChar c ++ next)) : next = [] := by
  obtain ⟨d, tail, hd⟩ := h
  have hread := decode_whole d
  rw [← hd, List.append_assoc, decode, decode_char, List.cons.injEq] at hread
  exact (List.append_eq_nil_iff.mp (eq_nil_of_decode hread.2).2).1

/-- The decoder takes an octet exactly if that goes on with a character. -/
theorem begins_step_iff (h : Pending bytes more low high value) : Begins (bytes ++ [b]) ↔ low ≤ b ∧ b ≤ high := by
  constructor
  · rintro ⟨c, tail, hc⟩
    by_contra hout
    have hread := decode_whole c
    rw [← hc, List.append_assoc, decode_pending h, List.singleton_append, decode_outside hout, List.cons.injEq] at hread
    exact absurd (eq_nil_of_decode hread.2).2 (List.cons_ne_nil b tail)
  · rintro ⟨hlow, hhigh⟩
    cases more with
    | zero =>
      obtain ⟨c, hc⟩ := encodes_of_pending h hlow hhigh
      exact ⟨c, [], by rw [List.append_nil, hc]⟩
    | succ more =>
      obtain ⟨t, ht, rfl, hlow, hhigh⟩ := exists_tail h hlow hhigh
      exact begins_of_pending (h.tail ht hlow hhigh)

theorem pending_singleton (h : Begins [b]) (hpart : ∀ c, String.utf8EncodeChar c ≠ [b]) :
    ∃ more low high value, Pending [b] more low high value := by
  rcases lead_cases b with ⟨v, hv, rfl⟩ | ⟨v, hlow, hv, rfl⟩ | ⟨v, hv, rfl⟩ | ⟨v, hv, rfl⟩ | hreplaced
  · exact absurd (encode_one hv) (hpart _)
  · exact ⟨_, _, _, _, .lead (lead_two v hv hlow)⟩
  · exact ⟨_, _, _, _, .lead (lead_three v hv)⟩
  · exact ⟨_, _, _, _, .lead (lead_four v hv)⟩
  · obtain ⟨c, tail, hc⟩ := h
    have hread := decode_whole c
    rw [← hc, List.singleton_append, decode, decode_cons, State.read, hreplaced, List.singleton_append,
      List.cons.injEq] at hread
    obtain ⟨-, rfl⟩ := eq_nil_of_decode hread.2
    exact absurd (hc.symm.trans (List.append_nil _)) (hpart c)

theorem pending_append (h : Pending bytes more low high value) {next : Bytes} (hbegins : Begins (bytes ++ next))
    (hpart : ∀ c, String.utf8EncodeChar c ≠ bytes ++ next) :
    ∃ more low high value, Pending (bytes ++ next) more low high value := by
  induction next generalizing bytes more low high value with
  | nil =>
    rw [List.append_nil]
    exact ⟨_, _, _, _, h⟩
  | cons b next ih =>
    rw [List.append_cons] at hbegins hpart ⊢
    obtain ⟨hlow, hhigh⟩ := (begins_step_iff h).mp hbegins.take
    cases more with
    | zero =>
      obtain ⟨c, hc⟩ := encodes_of_pending h hlow hhigh
      rw [← hc] at hbegins hpart
      obtain rfl := eq_nil_of_begins hbegins
      exact absurd (List.append_nil _).symm (hpart c)
    | succ more =>
      obtain ⟨t, ht, rfl, hlow, hhigh⟩ := exists_tail h hlow hhigh
      exact ih (h.tail ht hlow hhigh) hbegins hpart

/-- So the decoder waits whenever it has read the first octets of a character and not all of them. -/
theorem pending_of_begins (h : Begins bytes) (hne : bytes ≠ []) (hpart : ∀ c, String.utf8EncodeChar c ≠ bytes) :
    ∃ more low high value, Pending bytes more low high value := by
  obtain ⟨b, next, rfl⟩ := List.exists_cons_of_ne_nil hne
  rw [← List.singleton_append] at h hpart ⊢
  have hfirst : ∀ c, String.utf8EncodeChar c ≠ [b] := by
    intro c hc
    rw [← hc] at h hpart
    obtain rfl := eq_nil_of_begins h
    exact hpart c (List.append_nil _).symm
  obtain ⟨more, low, high, value, hpending⟩ := pending_singleton h.take hfirst
  exact pending_append hpending h hpart

/-! ## What is decoded -/

/-- A part that is no character becomes one replacement character. -/
theorem decode_broken {rest : Bytes} (h : Subpart bytes rest) : decode (bytes ++ rest) = replacement :: decode rest := by
  have hpart : ∀ c, String.utf8EncodeChar c ≠ bytes := by
    rintro c rfl
    exact h.broken c (List.prefix_append _ rest)
  by_cases hbegins : Begins bytes
  · obtain ⟨more, low, high, value, hpending⟩ := pending_of_begins hbegins h.nonempty hpart
    rw [decode_pending hpending]
    cases rest with
    | nil => rfl
    | cons b rest =>
      refine decode_outside (fun hin => ?_) rest
      have hlonger := h.longest (bytes ++ [b]) ⟨rest, by simp⟩ ((begins_step_iff hpending).mpr hin)
      rw [List.length_append, List.length_singleton] at hlonger
      exact absurd hlonger (Nat.not_succ_le_self _)
  · have hone : bytes.length = 1 := h.begins.resolve_left hbegins
    obtain ⟨b, rfl⟩ := List.length_eq_one_iff.mp hone
    rcases lead_cases b with ⟨v, hv, rfl⟩ | ⟨v, hlow, hv, rfl⟩ | ⟨v, hv, rfl⟩ | ⟨v, hv, rfl⟩ | hreplaced
    · exact absurd (encode_one hv) (hpart _)
    · exact absurd (begins_of_pending (.lead (lead_two v hv hlow))) hbegins
    · exact absurd (begins_of_pending (.lead (lead_three v hv))) hbegins
    · exact absurd (begins_of_pending (.lead (lead_four v hv))) hbegins
    · rw [List.singleton_append, decode, decode_cons, State.read, hreplaced]
      rfl

/-- Part by part, the characters are read and the others replaced. -/
theorem decode_splits {data : Bytes} {parts : List Part} (h : Splits data parts) : decode data = parts.map Part.read := by
  induction h with
  | nil => rfl
  | char c h ih =>
    rw [decode, decode_char, ← decode, ih]
    rfl
  | broken hbytes h ih =>
    rw [decode_broken hbytes, ih]
    rfl

end LineShell.Utf8
