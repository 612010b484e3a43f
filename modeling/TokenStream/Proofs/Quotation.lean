import Mathlib.Algebra.Group.Nat.Defs
import TokenStream.Proofs.Printable
import TokenStream.Text.Quoted
import TokenStream.Toml.Scalar

/-!
Quoted texts read back. What stands between the marks shows which text it is, and is printable.
-/
namespace TokenStream

namespace Quoted

/-- The number of digits after the letter of an escape by code point. -/
def codeWidth? (letter : Char) : Option Nat :=
  [('x', 2), ('u', 4), ('U', 8)].lookup letter

/-- What a letter stands for behind a backslash. The marks and the backslash stand for
themselves. -/
def meaning (letter : Char) : Char :=
  ([('n', '\n'), ('r', '\r'), ('t', '\t')].lookup letter).getD letter

/-- The characters that are written between two marks. -/
def unescape : List Char → List Char
  | [] => []
  | '\\' :: letter :: rest =>
    match codeWidth? letter with
    | some width => Char.ofNat (Toml.ofDigits 16 (rest.take width)) :: unescape (rest.drop width)
    | none => meaning letter :: unescape rest
  | c :: rest => c :: unescape rest
termination_by text => text.length

def decode (text : List Char) : List Char := unescape (text.drop 1).dropLast

variable {m c : Char} {n width : Nat} {text rest : List Char}

/-! ### Digits -/

theorem ofDigits_concat (digits : List Char) (base : Nat) :
    Toml.ofDigits base (digits ++ [c]) = Toml.ofDigits base digits * base + Toml.digitValue c := by
  simp [Toml.ofDigits]

theorem digitValue_digitChar : ∀ n < 16, Toml.digitValue n.digitChar = n := by
  decide

theorem length_hexDigits : (hexDigits width n).length = width := by
  induction width generalizing n with
  | zero => rfl
  | succ width ih => simp [hexDigits, ih]

theorem ofDigits_hexDigits : Toml.ofDigits 16 (hexDigits width n) = n % 16 ^ width := by
  induction width generalizing n with
  | zero => simp [hexDigits, Toml.ofDigits, Nat.mod_one]
  | succ width ih =>
    have hd := digitValue_digitChar (n % 16) (Nat.mod_lt _ (by decide))
    rw [hexDigits, ofDigits_concat, ih, hd, Nat.pow_succ, Nat.mul_comm (16 ^ width), Nat.mod_mul]
    omega

/-! ### One character -/

theorem unescape_cons (h : c ≠ '\\') : unescape (c :: rest) = c :: unescape rest := by
  rw [unescape]
  simp_all

theorem unescape_letter (h : codeWidth? c = none) :
    unescape ('\\' :: c :: rest) = meaning c :: unescape rest := by
  rw [unescape, h]

theorem unescape_code (h : codeWidth? m = some width) (hn : c.toNat < 16 ^ width) :
    unescape ('\\' :: m :: (hexDigits width c.toNat ++ rest)) = c :: unescape rest := by
  have hl := @length_hexDigits c.toNat width
  rw [unescape, h]
  simp only [List.take_left' hl, List.drop_left' hl, ofDigits_hexDigits, Nat.mod_eq_of_lt hn,
    Char.ofNat_toNat]

theorem unescape_codeEscape : unescape (codeEscape c.toNat ++ rest) = c :: unescape rest := by
  unfold codeEscape
  split
  · next h => exact unescape_code rfl h
  · split
    · next h => exact unescape_code rfl h
    · exact unescape_code rfl c.val.toNat_lt

/-- The marks that a text may stand between. -/
def marks : List Char := ['\'', '"']

theorem unescape_escape (h : m ∈ marks) : unescape (escape m c ++ rest) = c :: unescape rest := by
  unfold escape
  split
  · next hc =>
    have hm : c ∈ '\\' :: marks := by
      rcases hc with rfl | rfl
      · exact List.mem_cons_of_mem _ h
      · exact List.mem_cons_self
    have hself : ('\\' :: marks).all fun d => codeWidth? d = none ∧ meaning d = d := by decide
    obtain ⟨hw, hd⟩ := by simpa using List.all_eq_true.mp hself c hm
    rw [List.cons_append, List.cons_append, List.nil_append, unescape_letter hw, hd]
  · next hc =>
    by_cases hn : c = '\n'
    · subst hn
      exact unescape_letter rfl
    by_cases hr : c = '\r'
    · subst hr
      exact unescape_letter rfl
    by_cases ht : c = '\t'
    · subst ht
      exact unescape_letter rfl
    rw [if_neg hn, if_neg hr, if_neg ht]
    split
    · exact unescape_codeEscape
    · exact unescape_cons fun hb => hc (.inr hb)

/-! ### Whole texts -/

theorem mark_mem_marks (text : List Char) : mark text ∈ marks := by
  unfold mark
  split <;> decide

theorem head_encode (text : List Char) : (encode text).head? ≠ some ' ' := by
  have hm : ' ' ∉ marks := by decide
  intro hh
  obtain he : mark text = ' ' := by simpa [encode] using hh
  exact hm (he ▸ mark_mem_marks text)

theorem unescape_flatMap (h : m ∈ marks) (text : List Char) :
    unescape (text.flatMap (escape m)) = text := by
  induction text with
  | nil => rw [List.flatMap_nil, unescape]
  | cons c text ih => rw [List.flatMap_cons, unescape_escape h, ih]

theorem decode_encode (text : List Char) : decode (encode text) = text := by
  rw [decode, encode, List.drop_one, List.tail_cons, List.dropLast_concat]
  exact unescape_flatMap (mark_mem_marks text) text

/-! ### Printable characters -/

theorem printable_digitChar (n : Nat) : Printable (n % 16).digitChar := by
  have : ∀ k < 16, 0x20 ≤ k.digitChar.toNat ∧ k.digitChar.toNat ≤ 0x7e := by decide
  obtain ⟨hf, hl⟩ := this (n % 16) (Nat.mod_lt _ (by decide))
  exact printable_of_ascii hf hl

theorem printable_hexDigits {width n : Nat} (h : c ∈ hexDigits width n) : Printable c := by
  induction width generalizing n with
  | zero => simp [hexDigits] at h
  | succ width ih =>
    rcases List.mem_append.mp h with h | h
    · exact ih h
    · obtain rfl := List.mem_singleton.mp h
      exact printable_digitChar n

theorem printable_code {letter : Char} {width n : Nat} (hl : Printable letter)
    (h : c ∈ '\\' :: letter :: hexDigits width n) : Printable c := by
  rcases List.mem_cons.mp h with rfl | h
  · exact printable_of_ascii (by decide) (by decide)
  rcases List.mem_cons.mp h with rfl | h
  · exact hl
  · exact printable_hexDigits h

theorem printable_codeEscape {n : Nat} (h : c ∈ codeEscape n) : Printable c := by
  unfold codeEscape at h
  split at h
  · exact printable_code (printable_of_ascii (by decide) (by decide)) h
  · split at h
    · exact printable_code (printable_of_ascii (by decide) (by decide)) h
    · exact printable_code (printable_of_ascii (by decide) (by decide)) h

theorem printable_of_mem_marks (h : c ∈ '\\' :: marks) : Printable c := by
  have hp : ('\\' :: marks).all fun d => 0x20 ≤ d.toNat ∧ d.toNat ≤ 0x7e := by decide
  obtain ⟨hf, hl⟩ := by simpa using List.all_eq_true.mp hp c h
  exact printable_of_ascii hf hl

theorem printable_letter {letter : Char} (hl : letter ∈ ['n', 'r', 't'])
    (h : c ∈ ['\\', letter]) : Printable c := by
  have hp : ['n', 'r', 't'].all fun d => 0x20 ≤ d.toNat ∧ d.toNat ≤ 0x7e := by decide
  rcases List.mem_cons.mp h with rfl | h
  · exact printable_of_mem_marks List.mem_cons_self
  · obtain rfl := List.mem_singleton.mp h
    obtain ⟨hf, hl⟩ := by simpa using List.all_eq_true.mp hp c hl
    exact printable_of_ascii hf hl

theorem printable_escape {m d : Char} (hm : m ∈ marks) (h : c ∈ escape m d) : Printable c := by
  unfold escape at h
  split at h
  · next hd =>
    have hc : c = '\\' ∨ c = d := by simpa using h
    apply printable_of_mem_marks
    rcases hc with rfl | rfl
    · exact List.mem_cons_self
    · rcases hd with rfl | rfl
      · exact List.mem_cons_of_mem _ hm
      · exact List.mem_cons_self
  · split at h
    · exact printable_letter (by decide) h
    split at h
    · exact printable_letter (by decide) h
    split at h
    · exact printable_letter (by decide) h
    split at h
    · exact printable_codeEscape h
    · next hu =>
      obtain rfl := List.mem_singleton.mp h
      simpa [Printable] using hu

theorem printable_encode {text : List Char} (h : c ∈ encode text) : Printable c := by
  have hm := mark_mem_marks text
  have hmark := printable_of_mem_marks (List.mem_cons_of_mem '\\' hm)
  rcases List.mem_cons.mp h with rfl | h
  · exact hmark
  rcases List.mem_append.mp h with h | h
  · obtain ⟨d, -, h⟩ := List.mem_flatMap.mp h
    exact printable_escape hm h
  · obtain rfl := List.mem_singleton.mp h
    exact hmark

end Quoted

end TokenStream
