import LineShell.Proofs.Chunks
import LineShell.Proofs.Subparts
import LineShell.Proofs.NamedFiles

/-!
The third number of `wc`. It is the length of the decoded text, so a part of the bytes that is no character
counts as its replacement, which has three octets. The number is that of the bytes exactly if all these
parts have three octets as well.

  - `length_encode_decode`: the length of the decoded text, encoded again, from the parts of the bytes.
  - `excess_eq_zero_iff_three` / `excess_le`: when it is that of the bytes, and how much more it can be.
  - `wc_prints_size`: what `wc` prints of a file, of the stage before it and of the source.
-/

namespace LineShell

namespace Utf8

variable {data : Bytes} {parts : List Part}

theorem length_replacement : (String.utf8EncodeChar replacement).length = 3 := by decide

/-- A part that is no character is at most as long as its replacement. -/
theorem Subpart.length_le {bytes rest : Bytes} (h : Subpart bytes rest) : bytes.length ≤ 3 := by
  rcases h.begins with ⟨c, tail, hc⟩ | hone
  · have htail : tail ≠ [] := by
      rintro rfl
      rw [List.append_nil] at hc
      exact h.broken c (hc ▸ List.prefix_append _ rest)
    have hpos := List.length_pos_iff.mpr htail
    have hlen : (bytes ++ tail).length ≤ 4 := by
      rw [hc, String.length_utf8EncodeChar]
      exact c.utf8Size_le_four
    rw [List.length_append] at hlen
    omega
  · omega

/-- What its replacement is longer than the part. -/
def Part.excess : Part → Nat
  | char _ => 0
  | broken bytes => 3 - bytes.length

def excess : List Part → Nat
  | [] => 0
  | part :: parts => part.excess + excess parts

theorem excess_eq_zero_iff : excess parts = 0 ↔ ∀ part ∈ parts, part.excess = 0 := by
  induction parts with
  | nil => exact iff_of_true rfl nofun
  | cons part parts ih => rw [excess, Nat.add_eq_zero_iff, ih, List.forall_mem_cons]

/-- The decoded text is longer than the bytes by what the replacements are longer. -/
theorem length_encode_decode (h : Splits data parts) :
    (encode (decode data)).length = data.length + excess parts := by
  rw [decode_splits h]
  induction h with
  | nil => rfl
  | char c h ih =>
    rw [List.map_cons, encode_cons, List.length_append, List.length_append, ih]
    simp only [Part.read, excess, Part.excess]
    omega
  | broken hbytes h ih =>
    have hle := hbytes.length_le
    rw [List.map_cons, encode_cons, List.length_append, List.length_append, ih]
    simp only [Part.read, excess, Part.excess, length_replacement]
    omega

theorem length_broken (h : Splits data parts) {bytes : Bytes} (hmem : .broken bytes ∈ parts) :
    1 ≤ bytes.length ∧ bytes.length ≤ 3 := by
  induction h with
  | nil => cases hmem
  | char c h ih =>
    rcases List.mem_cons.mp hmem with heq | hmem
    · cases heq
    · exact ih hmem
  | broken hbytes h ih =>
    rcases List.mem_cons.mp hmem with heq | hmem
    · cases heq
      exact ⟨List.length_pos_iff.mpr hbytes.nonempty, hbytes.length_le⟩
    · exact ih hmem

/-- The decoded text is as long as the bytes exactly if every replaced part has three octets. -/
theorem excess_eq_zero_iff_three (h : Splits data parts) :
    excess parts = 0 ↔ ∀ bytes, .broken bytes ∈ parts → bytes.length = 3 := by
  rw [excess_eq_zero_iff]
  constructor
  · intro hzero bytes hmem
    have hexcess : 3 - bytes.length = 0 := hzero _ hmem
    have hle := (length_broken h hmem).2
    omega
  · intro hthree part hmem
    cases part with
    | char c => rfl
    | broken bytes =>
      rw [Part.excess, hthree bytes hmem]

theorem excess_le (h : Splits data parts) : excess parts ≤ 2 * data.length := by
  induction h with
  | nil => exact Nat.le_refl 0
  | char c h ih =>
    rw [List.length_append]
    simp only [excess, Part.excess]
    omega
  | broken hbytes h ih =>
    have hpos := List.length_pos_iff.mpr hbytes.nonempty
    rw [List.length_append]
    simp only [excess, Part.excess]
    omega

end Utf8

namespace Session

open Builtin Utf8

/-- The third number that `wc` prints of a byte string, as the content of a file, as what the stage before
has written or as what the source holds, is the number of its bytes and, for each part of it that is no
character, what that lacks of three. It is the number of bytes exactly if all those parts have three
octets, never less, and at most three times as much. -/
theorem wc_prints_size (s : Session) (m : Machine) (data : Bytes) :
    (∃ parts, Splits data parts) ∧ ∀ parts, Splits data parts →
      let counts : Counts := { Counts.ofBytes data with bytes := data.length + excess parts }
      let site : Site := ⟨m, s.directory⟩
      (∀ file, Wc.chunk file (.ok data) = Wc.named counts.text file) ∧
        (∀ file p arguments, site.read file = .ok data → Wc.grammar.parse arguments = .ok [file] →
          s.runAt m p Wc.name arguments = s.deliver p (Wc.named counts.text file) 0) ∧
        (∀ p arguments, (s.input p).readAll.1 = .ok data → Wc.grammar.parse arguments = .ok [] →
          s.runAt m p Wc.name arguments =
            (s.setInput (s.input p).readAll.2).deliver p (Wc.unnamed counts.text) 0) ∧
        (counts.bytes = data.length ↔ ∀ bytes, .broken bytes ∈ parts → bytes.length = 3) ∧
        data.length ≤ counts.bytes ∧ counts.bytes ≤ 3 * data.length := by
  refine ⟨exists_splits data, fun parts h => ?_⟩
  intro counts site
  have hcounts : Counts.ofBytes data = counts := by
    have hbytes : (Counts.ofBytes data).bytes = data.length + excess parts := length_encode_decode h
    show _ = ({ Counts.ofBytes data with bytes := data.length + excess parts } : Counts)
    rw [← hbytes]
  have hzero : counts.bytes = data.length ↔ excess parts = 0 := Nat.add_eq_left
  have hmost := excess_le h
  refine ⟨fun file => ?_, fun file p arguments hread hparse => ?_, fun p arguments hread hparse => ?_,
    hzero.trans (excess_eq_zero_iff_three h), Nat.le_add_right _ _, ?_⟩
  · rw [← hcounts]
    rfl
  · rw [s.runAt_ok rfl hparse, runBuiltin_eq, wc_named hread, setInput_input, hcounts]
  · have hanswer : (Wc.behaviour site []).answer (s.input p) =
        (⟨Wc.unnamed counts.text, 0⟩, (s.input p).readAll.2) := by
      rw [← hcounts, Wc.behaviour, Behaviour.answer, hread]
      rfl
    rw [s.runAt_ok rfl hparse, runBuiltin_eq, hanswer]
  · show data.length + excess parts ≤ _
    omega

/-- A letter, and the first two octets of a character of three. -/
def cutOff : Bytes := [97, 0xE2, 0x82]

theorem splits_cutOff : Splits cutOff [.char 'a', .broken [0xE2, 0x82]] := by
  have hlead : Pending [0xE2] 1 0x80 0xBF 2 := .lead rfl
  have hpending : Pending ([0xE2] ++ [UInt8.ofNat (2 + 0x80)]) 0 0x80 0xBF (2 * 64 + 2) :=
    hlead.tail (by decide) (by decide) (by decide)
  have hbegins : Begins [0xE2, 0x82] := begins_of_pending hpending
  have hbroken : ∀ c, ¬ String.utf8EncodeChar c <+: [0xE2, 0x82] ++ [] := by
    rintro c ⟨tail, hc⟩
    rw [List.append_nil] at hc
    -- they would be all octets of `c`, and those are decoded to `c`
    have htail : tail = [] := eq_nil_of_begins (hc ▸ hbegins)
    rw [htail, List.append_nil] at hc
    have hread := decode_whole c
    rw [hc, show decode [0xE2, 0x82] = [replacement] from rfl, List.cons.injEq] at hread
    rw [← hread.1] at hc
    exact absurd hc (by decide)
  have hsub : Subpart [0xE2, 0x82] [] :=
    ⟨hbroken, List.cons_ne_nil _ _, Or.inl hbegins, fun start hstart _ => hstart.length_le⟩
  exact .char 'a' (.broken hsub .nil)

def holding (data : Bytes) : Host := { tree := ({} : Host.Tree).add (Host.location "/f") (.file data false) }

/-- The bytes as what the source holds and as what the stage before has written. -/
def supplied (data : Bytes) : Session := { streams := { source := { rest := data }, pipe := { input := data } } }

/-- Of three octets the number is 4, as the last two are replaced by three. -/
theorem wc_prints_size_cutOff :
    let m := (holding cutOff).machine
    let s := supplied cutOff
    Splits cutOff [.char 'a', .broken [0xE2, 0x82]] ∧
      s.run m Wc.name ["f".toList] = s.deliver .alone (Wc.named "\t1\t1\t4".toList "f".toList) 0 ∧
      s.run m Wc.name [] = (s.setInput (.source {})).deliver .alone (Wc.unnamed "\t1\t1\t4".toList) 0 ∧
      s.runAt m ⟨1, 2⟩ Wc.name [] =
        (s.setInput (.upstream [])).deliver ⟨1, 2⟩ (Wc.unnamed "\t1\t1\t4".toList) 0 := by
  intro m s
  obtain ⟨-, hprints⟩ := wc_prints_size s m cutOff
  obtain ⟨-, hfile, hinput, -⟩ := hprints _ splits_cutOff
  exact ⟨splits_cutOff, hfile "f".toList .alone ["f".toList] rfl rfl, hinput .alone [] rfl rfl,
    hinput ⟨1, 2⟩ [] rfl rfl⟩

/-- Of one octet that is no text the number is 3, wherever it comes from. -/
theorem replaced_octet_counted :
    let m := (holding [0xFF]).machine
    let s := supplied [0xFF]
    (s.run m Wc.name ["f".toList]).2.streams.sink.written = "\t1\t1\t3 f\n".toUTF8.data.toList ∧
      (s.run m Wc.name []).2.streams.sink.written = "\t1\t1\t3\n".toUTF8.data.toList ∧
      (s.runAt m ⟨1, 2⟩ Wc.name []).2.streams.sink.written = "\t1\t1\t3\n".toUTF8.data.toList ∧
      (Counts.ofBytes [0xFF]).bytes ≠ ([0xFF] : Bytes).length := by
  refine ⟨?_, ?_, ?_, by decide⟩
  all_goals decide

end Session

end LineShell
