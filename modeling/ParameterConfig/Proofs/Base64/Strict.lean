import Mathlib.Algebra.Group.Nat.Defs
import ParameterConfig.Proofs.Base64

/-!
# What strict reading accepts

A text is read just when it is a row of letters of the alphabet with equals signs behind it, the letters and the signs fitting together. What comes out are the octets whose bits the letters write one after the other; the few bits left over at the end are not looked at. Signs are filled up by the length of the whole text, so a text that has some of its signs already is accepted as well, as long as they are not too many for its letters.
-/

namespace ParameterConfig
namespace Base64

/-! ### Bits -/

/-- The lowest binary digits of a number, as many as wanted, the highest of them first. -/
def bits : Nat → Nat → List Bool
  | 0, _ => []
  | width + 1, n => bits width (n / 2) ++ [decide (n % 2 = 1)]

@[simp]
theorem length_bits (width n : Nat) : (bits width n).length = width := by
  induction width generalizing n with
  | zero => rfl
  | succ width ih => rw [bits, List.length_append, ih, List.length_singleton]

/-- The digits of a number are those of its upper and of its lower part. -/
theorem bits_mul_add {low : Nat} (width high v : Nat) (hlow : low < 2 ^ v) :
    bits (width + v) (high * 2 ^ v + low) = bits width high ++ bits v low := by
  induction v generalizing low with
  | zero =>
    obtain rfl : low = 0 := by simpa using hlow
    simp [bits]
  | succ v ih =>
    rw [Nat.pow_succ] at hlow ⊢
    have hhalf : (high * (2 ^ v * 2) + low) / 2 = high * 2 ^ v + low / 2 := by
      rw [← Nat.mul_assoc]
      omega
    have hlast : (high * (2 ^ v * 2) + low) % 2 = low % 2 := by
      rw [← Nat.mul_assoc]
      omega
    have hupper : low / 2 < 2 ^ v := by omega
    rw [← Nat.add_assoc, bits, hhalf, hlast, ih hupper, bits, List.append_assoc]

/-- A row of digits may be cut at another place. -/
theorem bits_regroup {width v width' v' high low high' low' : Nat} (hwidth : width + v = width' + v')
    (hlow : low < 2 ^ v) (hlow' : low' < 2 ^ v')
    (hvalue : high * 2 ^ v + low = high' * 2 ^ v' + low') :
    bits width high ++ bits v low = bits width' high' ++ bits v' low' := by
  rw [← bits_mul_add width high v hlow, ← bits_mul_add width' high' v' hlow', hwidth, hvalue]

theorem bits_inj {width m n : Nat} (hm : m < 2 ^ width) (hn : n < 2 ^ width)
    (hbits : bits width m = bits width n) : m = n := by
  induction width generalizing m n with
  | zero =>
    rw [Nat.pow_zero] at hm hn
    omega
  | succ width ih =>
    rw [Nat.pow_succ] at hm hn
    obtain ⟨hupper, hlast⟩ := List.append_inj' hbits rfl
    have hhalf : m / 2 = n / 2 := ih (by omega) (by omega) hupper
    have hparity : m % 2 = 1 ↔ n % 2 = 1 := by simpa using hlast
    omega

/-! ### Letters -/

def alphabet : List Char :=
  "ABCDEFGHIJKLMNOPQRSTUVWXYZabcdefghijklmnopqrstuvwxyz0123456789+/".toList

theorem alphabet_eq : alphabet = (List.range 64).map letter := by
  decide

theorem idxOf_letter : ∀ n < 64, alphabet.idxOf (letter n) = n := by
  decide

theorem exists_letter {c : Char} (hc : c ∈ alphabet) : ∃ n < 64, letter n = c := by
  rw [alphabet_eq] at hc
  simpa using hc

theorem value?_of_mem {c : Char} (hc : c ∈ alphabet) : value? c = some (alphabet.idxOf c) := by
  obtain ⟨n, hn, rfl⟩ := exists_letter hc
  rw [value?_letter n hn, idxOf_letter n hn]

theorem idxOf_lt {c : Char} (hc : c ∈ alphabet) : alphabet.idxOf c < 64 := by
  obtain ⟨n, hn, rfl⟩ := exists_letter hc
  rwa [idxOf_letter n hn]

theorem ne_fill_of_mem {c : Char} (hc : c ∈ alphabet) : c ≠ '=' := by
  obtain ⟨n, hn, rfl⟩ := exists_letter hc
  exact letter_ne_fill n hn

theorem toNat_lt_of_mem {c : Char} (hc : c ∈ alphabet) : c.toNat < 0x80 := by
  obtain ⟨n, hn, rfl⟩ := exists_letter hc
  exact toNat_letter_lt n hn

theorem mem_alphabet_of_code :
    ∀ n < 0x80, (value? (Char.ofNat n)).isSome → Char.ofNat n ∈ alphabet := by
  decide +kernel

theorem mem_alphabet_of_value? {c : Char} {n : Nat} (hvalue : value? c = some n) :
    c ∈ alphabet := by
  have hcode : c.toNat < 0x80 := by
    simp only [value?, Bool.and_eq_true, decide_eq_true_eq] at hvalue
    split at hvalue
    · rename_i hrange
      exact Nat.lt_of_le_of_lt hrange.2 (by decide)
    split at hvalue
    · rename_i hrange
      exact Nat.lt_of_le_of_lt hrange.2 (by decide)
    split at hvalue
    · rename_i hrange
      exact Nat.lt_of_le_of_lt hrange.2 (by decide)
    split at hvalue
    · rename_i hplus
      subst hplus
      decide
    split at hvalue
    · rename_i hslash
      subst hslash
      decide
    · cases hvalue
  have hletter := mem_alphabet_of_code c.toNat hcode
  rw [Char.ofNat_toNat, hvalue] at hletter
  exact hletter rfl

/-! ### Octets carried by letters -/

def letterBits (letters : List Char) : List Bool :=
  letters.flatMap fun c => bits 6 (alphabet.idxOf c)

def octetBits (octets : List UInt8) : List Bool :=
  octets.flatMap fun octet => bits 8 octet.toNat

/-- The octets whose bits the letters write, with less than another octet left over. -/
def Carries (letters : List Char) (octets : List UInt8) : Prop :=
  ∃ unused : List Bool, unused.length < 8 ∧ letterBits letters = octetBits octets ++ unused

theorem letterBits_append (letters more : List Char) :
    letterBits (letters ++ more) = letterBits letters ++ letterBits more :=
  List.flatMap_append

theorem octetBits_append (octets more : List UInt8) :
    octetBits (octets ++ more) = octetBits octets ++ octetBits more :=
  List.flatMap_append

theorem length_octetBits (octets : List UInt8) : (octetBits octets).length = octets.length * 8 := by
  simp [octetBits, List.length_flatMap, List.map_const']

theorem octetBits_inj {octets others : List UInt8} (hlength : octets.length = others.length)
    (hbits : octetBits octets = octetBits others) : octets = others := by
  induction octets generalizing others with
  | nil => exact (List.length_eq_zero_iff.mp hlength.symm).symm
  | cons octet rest ih =>
    obtain ⟨other, more, rfl⟩ := List.exists_cons_of_length_eq_add_one hlength.symm
    obtain ⟨hfirst, hrest⟩ := List.append_inj hbits (by simp)
    have hsame : octet = other := UInt8.toNat.inj (bits_inj octet.toNat_lt other.toNat_lt hfirst)
    rw [hsame, ih (Nat.succ.inj hlength) hrest]

theorem Carries.unique {letters : List Char} {octets others : List UInt8}
    (hoctets : Carries letters octets) (hothers : Carries letters others) : octets = others := by
  obtain ⟨unused, hunused, hletters⟩ := hoctets
  obtain ⟨spare, hspare, hsame⟩ := hothers
  rw [hletters] at hsame
  have hlength := congrArg List.length hsame
  simp only [List.length_append, length_octetBits] at hlength
  have hcount : octets.length = others.length := by omega
  refine octetBits_inj hcount (List.append_inj_left hsame ?_)
  rw [length_octetBits, length_octetBits, hcount]

/-! ### Groups -/

theorem bits_pair {n : Nat} (m : Nat) (hn : n < 64) :
    bits 6 m ++ bits 6 n = bits 8 (m * 4 + n / 16) ++ bits 4 (n % 16) := by
  refine bits_regroup rfl hn (Nat.mod_lt n (by decide)) ?_
  show m * 64 + n = (m * 4 + n / 16) * 16 + n % 16
  omega

theorem bits_triple {p : Nat} (n : Nat) (hp : p < 64) :
    bits 4 (n % 16) ++ bits 6 p = bits 8 (n % 16 * 16 + p / 4) ++ bits 2 (p % 4) := by
  refine bits_regroup rfl hp (Nat.mod_lt p (by decide)) ?_
  show n % 16 * 64 + p = (n % 16 * 16 + p / 4) * 4 + p % 4
  omega

theorem bits_quad {q : Nat} (p : Nat) (hq : q < 64) :
    bits 2 (p % 4) ++ bits 6 q = bits 8 (p % 4 * 64 + q) :=
  (bits_mul_add 2 _ 6 hq).symm

theorem octetBits_ofNat {n : Nat} (hn : n < 256) (rest : List UInt8) :
    octetBits (UInt8.ofNat n :: rest) = bits 8 n ++ octetBits rest := by
  rw [octetBits, List.flatMap_cons, UInt8.toNat_ofNat_of_lt' hn]
  rfl

section Groups

variable {a b c d : Char}

theorem carries_pair? (ha : a ∈ alphabet) (hb : b ∈ alphabet) :
    ∃ octets, pair? a b = some octets ∧ Carries [a, b] octets := by
  have hm := idxOf_lt ha
  have hn := idxOf_lt hb
  unfold pair?
  rw [value?_of_mem ha, value?_of_mem hb]
  refine ⟨_, rfl, bits 4 (alphabet.idxOf b % 16), by simp, ?_⟩
  rw [octetBits_ofNat (by omega)]
  simp only [letterBits, octetBits, List.flatMap_cons, List.flatMap_nil, List.append_nil]
  exact bits_pair _ hn

theorem carries_triple? (ha : a ∈ alphabet) (hb : b ∈ alphabet) (hc : c ∈ alphabet) :
    ∃ octets, triple? a b c = some octets ∧ Carries [a, b, c] octets := by
  have hm := idxOf_lt ha
  have hn := idxOf_lt hb
  have hp := idxOf_lt hc
  unfold triple?
  rw [value?_of_mem ha, value?_of_mem hb, value?_of_mem hc]
  refine ⟨_, rfl, bits 2 (alphabet.idxOf c % 4), by simp, ?_⟩
  rw [octetBits_ofNat (by omega), octetBits_ofNat (by omega)]
  simp only [letterBits, octetBits, List.flatMap_cons, List.flatMap_nil, List.append_nil]
  rw [← List.append_assoc, bits_pair _ hn, List.append_assoc, bits_triple _ hp, List.append_assoc]

theorem letterBits_quad? (ha : a ∈ alphabet) (hb : b ∈ alphabet) (hc : c ∈ alphabet)
    (hd : d ∈ alphabet) :
    ∃ octets, quad? a b c d = some octets ∧ letterBits [a, b, c, d] = octetBits octets := by
  have hm := idxOf_lt ha
  have hn := idxOf_lt hb
  have hp := idxOf_lt hc
  have hq := idxOf_lt hd
  unfold quad?
  rw [value?_of_mem ha, value?_of_mem hb, value?_of_mem hc, value?_of_mem hd]
  refine ⟨_, rfl, ?_⟩
  rw [octetBits_ofNat (by omega), octetBits_ofNat (by omega), octetBits_ofNat (by omega)]
  simp only [letterBits, octetBits, List.flatMap_cons, List.flatMap_nil, List.append_nil]
  rw [← List.append_assoc, bits_pair _ hn, List.append_assoc, ← List.append_assoc (bits 4 _),
    bits_triple _ hp, List.append_assoc, bits_quad _ hq]

end Groups

/-! ### Complete texts -/

theorem isFill_iff {cs : List Char} : isFill cs = true ↔ cs = List.replicate cs.length '=' := by
  simp [isFill, List.eq_replicate_iff]

theorem decode?_of_quad? {a b c d : Char} {octets : List UInt8} (rest : List Char)
    (hd : d ∈ alphabet) (hread : quad? a b c d = some octets) :
    decode? (a :: b :: c :: d :: rest) =
      if isFill rest then some octets else (decode? rest).map (octets ++ ·) := by
  have hlast : (rest.isEmpty && decide (d = '=')) = false := by simp [ne_fill_of_mem hd]
  rw [decode?, if_neg (by rw [hlast]; decide), hread]
  simp only [Option.bind_eq_bind, Option.bind_some, Option.pure_def]
  cases decode? rest <;> rfl

/-- Letters with all the equals signs that belong to them. Behind complete groups that is any number of them. -/
structure Complete (letters : List Char) (fills : Nat) : Prop where
  known : ∀ c ∈ letters, c ∈ alphabet
  started : letters.length % 4 ≠ 1
  two : letters.length % 4 = 2 → fills = 2
  three : letters.length % 4 = 3 → fills = 1
  empty : letters = [] → fills = 0

theorem Complete.behind_group {a b c d e : Char} {more : List Char} {fills : Nat}
    (hcomplete : Complete (a :: b :: c :: d :: e :: more) fills) : Complete (e :: more) fills := by
  have hlength : (a :: b :: c :: d :: e :: more).length = (e :: more).length + 4 := rfl
  have hstarted := hcomplete.started
  exact
    { known := fun x hx => hcomplete.known x (by simp [hx])
      started := by omega
      two := fun htwo => hcomplete.two (by omega)
      three := fun hthree => hcomplete.three (by omega)
      empty := nofun }

theorem carries_group {a b c d : Char} {rest : List Char} {octets later : List UInt8}
    (hgroup : letterBits [a, b, c, d] = octetBits octets) (hrest : Carries rest later) :
    Carries (a :: b :: c :: d :: rest) (octets ++ later) := by
  obtain ⟨unused, hunused, hlater⟩ := hrest
  refine ⟨unused, hunused, ?_⟩
  calc letterBits ([a, b, c, d] ++ rest)
      = letterBits [a, b, c, d] ++ letterBits rest := letterBits_append [a, b, c, d] rest
    _ = octetBits octets ++ (octetBits later ++ unused) := by rw [hgroup, hlater]
    _ = octetBits (octets ++ later) ++ unused := by rw [octetBits_append, List.append_assoc]

/-- A complete text is read, and gives the octets that its letters carry. -/
theorem Complete.decode? {letters : List Char} {fills : Nat} (hcomplete : Complete letters fills) :
    ∃ octets, Base64.decode? (letters ++ List.replicate fills '=') = some octets ∧
      Carries letters octets := by
  induction hlength : letters.length using Nat.strongRecOn generalizing letters with
  | ind length ih =>
    rcases letters with _ | ⟨a, _ | ⟨b, _ | ⟨c, _ | ⟨d, rest⟩⟩⟩⟩
    · rw [hcomplete.empty rfl]
      exact ⟨[], rfl, [], by decide, rfl⟩
    · exact absurd rfl hcomplete.started
    · rw [hcomplete.two rfl]
      exact carries_pair? (hcomplete.known a (by simp)) (hcomplete.known b (by simp))
    · have hc := hcomplete.known c (by simp)
      obtain ⟨octets, hread, hcarries⟩ :=
        carries_triple? (hcomplete.known a (by simp)) (hcomplete.known b (by simp)) hc
      rw [hcomplete.three rfl]
      refine ⟨octets, ?_, hcarries⟩
      rw [← hread]
      exact if_neg (ne_fill_of_mem hc)
    · have hd := hcomplete.known d (by simp)
      obtain ⟨octets, hread, hbits⟩ := letterBits_quad? (hcomplete.known a (by simp))
        (hcomplete.known b (by simp)) (hcomplete.known c (by simp)) hd
      have hgroup := decode?_of_quad? (rest ++ List.replicate fills '=') hd hread
      cases rest with
      | nil =>
        have hfill : isFill ([] ++ List.replicate fills '=') = true := by simp [isFill]
        rw [if_pos hfill] at hgroup
        exact ⟨octets, hgroup, [], by decide, by rw [hbits, List.append_nil]⟩
      | cons e more =>
        have hrest := hcomplete.behind_group
        have hfill : ¬ isFill (e :: more ++ List.replicate fills '=') = true := by
          simp [isFill, ne_fill_of_mem (hrest.known e List.mem_cons_self)]
        have hshorter : (e :: more).length < length := by
          rw [← hlength]
          simp only [List.length_cons]
          omega
        obtain ⟨later, hlater, hcarries⟩ := ih _ hshorter hrest rfl
        rw [if_neg hfill, hlater, Option.map_some] at hgroup
        exact ⟨octets ++ later, hgroup, carries_group hbits hcarries⟩

theorem mem_alphabet_of_pair? {a b : Char} {octets : List UInt8}
    (hread : pair? a b = some octets) : ∀ x ∈ [a, b], x ∈ alphabet := by
  simp only [pair?, Option.bind_eq_bind, Option.bind_eq_some_iff] at hread
  obtain ⟨m, hm, n, hn, _⟩ := hread
  simp [mem_alphabet_of_value? hm, mem_alphabet_of_value? hn]

theorem mem_alphabet_of_triple? {a b c : Char} {octets : List UInt8}
    (hread : triple? a b c = some octets) : ∀ x ∈ [a, b, c], x ∈ alphabet := by
  simp only [triple?, Option.bind_eq_bind, Option.bind_eq_some_iff] at hread
  obtain ⟨m, hm, n, hn, p, hp, _⟩ := hread
  simp [mem_alphabet_of_value? hm, mem_alphabet_of_value? hn, mem_alphabet_of_value? hp]

theorem mem_alphabet_of_quad? {a b c d : Char} {octets : List UInt8}
    (hread : quad? a b c d = some octets) : ∀ x ∈ [a, b, c, d], x ∈ alphabet := by
  simp only [quad?, Option.bind_eq_bind, Option.bind_eq_some_iff] at hread
  obtain ⟨m, hm, n, hn, p, hp, q, hq, _⟩ := hread
  simp [mem_alphabet_of_value? hm, mem_alphabet_of_value? hn, mem_alphabet_of_value? hp,
    mem_alphabet_of_value? hq]

theorem complete_of_decode? {cs : List Char} {octets : List UInt8}
    (hread : decode? cs = some octets) :
    ∃ letters fills, cs = letters ++ List.replicate fills '=' ∧ Complete letters fills := by
  fun_induction decode? cs generalizing octets with
  | case1 => exact ⟨[], 0, rfl, by simp, by decide, by decide, by decide, fun _ => rfl⟩
  | case2 a b d rest hend =>
    simp only [Bool.and_eq_true, List.isEmpty_iff, decide_eq_true_eq] at hend
    obtain ⟨rfl, rfl⟩ := hend
    have hknown := mem_alphabet_of_pair? hread
    exact ⟨[a, b], 2, rfl, hknown, by simp, by simp, by simp, by simp⟩
  | case3 a b c d rest hend =>
    simp only [Bool.and_eq_true, List.isEmpty_iff, decide_eq_true_eq] at hend
    obtain ⟨rfl, rfl⟩ := hend
    have hknown := mem_alphabet_of_triple? hread
    exact ⟨[a, b, c], 1, rfl, hknown, by simp, by simp, by simp, by simp⟩
  | case4 a b c d rest hend ih =>
    obtain ⟨first, hfirst, hrest⟩ := Option.bind_eq_some_iff.mp hread
    have hknown := mem_alphabet_of_quad? hfirst
    split at hrest
    · rename_i hfill
      rw [isFill_iff] at hfill
      refine ⟨[a, b, c, d], rest.length, ?_, hknown, by simp, by simp, by simp, by simp⟩
      rw [← hfill]
      rfl
    · obtain ⟨more, hmore, _⟩ := Option.bind_eq_some_iff.mp hrest
      obtain ⟨letters, fills, rfl, hcomplete⟩ := ih hmore
      have hlength : (a :: b :: c :: d :: letters).length = letters.length + 4 := rfl
      have hstarted := hcomplete.started
      refine ⟨a :: b :: c :: d :: letters, fills, rfl, ?_, by omega, ?_, ?_, ?_⟩
      · exact List.forall_mem_append.mpr ⟨hknown, hcomplete.known⟩
      · exact fun htwo => hcomplete.two (by omega)
      · exact fun hthree => hcomplete.three (by omega)
      · exact fun hnil => nomatch hnil
  | case5 => cases hread

/-! ### Texts to be filled up -/

/-- Letters and a number of equals signs behind them that are not too many, though some may be missing. -/
structure Fits (letters : List Char) (fills : Nat) : Prop where
  known : ∀ c ∈ letters, c ∈ alphabet
  started : letters.length % 4 ≠ 1
  two : letters.length % 4 = 2 → fills ≤ 2
  three : letters.length % 4 = 3 → fills ≤ 1
  empty : letters = [] → fills = 0

/-- Signs taken off the end of a text of letters and signs leave such a text. -/
theorem eq_of_append_replicate {cs letters : List Char} {fills added : Nat}
    (hknown : ∀ c ∈ letters, c ∈ alphabet)
    (hsame : cs ++ List.replicate added '=' = letters ++ List.replicate fills '=') :
    ∃ kept ≤ fills, cs = letters ++ List.replicate kept '=' := by
  obtain ⟨more, hletters, hadded⟩ | ⟨signs, hcs, hfills⟩ := List.append_eq_append_iff.mp hsame
  · -- What the letters have beyond the text is signs, so it is nothing.
    have hnil : more = [] := by
      refine List.eq_nil_iff_forall_not_mem.mpr fun c hc => ?_
      have hsign : c ∈ List.replicate added '=' := hadded ▸ List.mem_append_left _ hc
      have hletter : c ∈ letters := hletters ▸ List.mem_append_right _ hc
      exact ne_fill_of_mem (hknown c hletter) (List.eq_of_mem_replicate hsign)
    rw [hnil, List.append_nil] at hletters
    exact ⟨0, Nat.zero_le fills, by rw [hletters, List.replicate_zero, List.append_nil]⟩
  · obtain ⟨hlength, hsigns, _⟩ := List.replicate_eq_append_iff.mp hfills
    exact ⟨signs.length, by omega, by rw [hcs, ← hsigns]⟩

/-- A text is read with its signs filled up when it fits. -/
theorem Fits.decode?_filledUp {letters : List Char} {fills : Nat} (hfits : Fits letters fills) :
    ∃ octets, decode? (filledUp (letters ++ List.replicate fills '=')) = some octets ∧
      Carries letters octets := by
  obtain ⟨hknown, hstarted, htwo, hthree, hempty⟩ := hfits
  unfold filledUp
  rw [List.append_assoc, List.replicate_append_replicate]
  refine Complete.decode? ⟨hknown, hstarted, ?_, ?_, ?_⟩
  · intro hlength
    have := htwo hlength
    rw [List.length_append, List.length_replicate]
    omega
  · intro hlength
    have := hthree hlength
    rw [List.length_append, List.length_replicate]
    omega
  · intro hnil
    rw [hempty hnil, hnil]
    rfl

theorem fits_of_decode?_filledUp {cs : List Char} {octets : List UInt8}
    (hread : decode? (filledUp cs) = some octets) :
    ∃ letters fills, cs = letters ++ List.replicate fills '=' ∧ Fits letters fills := by
  obtain ⟨letters, fills, hsame, hknown, hstarted, htwo, hthree, hempty⟩ :=
    complete_of_decode? hread
  obtain ⟨kept, hkept, hcs⟩ := eq_of_append_replicate hknown hsame
  refine ⟨letters, kept, hcs, hknown, hstarted, ?_, ?_, ?_⟩
  · intro hlength
    have := htwo hlength
    omega
  · intro hlength
    have := hthree hlength
    omega
  · intro hnil
    have := hempty hnil
    omega

end Base64
end ParameterConfig
