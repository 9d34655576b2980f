import Mathlib.Tactic.IntervalCases
import Provision.Text.Quoted
import Provision.Text.Whole

/-!
Quotation: lists of quoted texts tell which texts they are of.

Whatever stands behind a quoted text, the text can be read back: each character that is written
between the quotes tells where it ends (`unescape`), and only the closing quote is written without a
backslash.

* `unescape_escape`: one character is read back;
* `quoted_append_inj`: so is a quoted text, and what stands behind it;
* `bracketed_quoted_injective`: so are the texts of a list.
-/

namespace Provision.Text

/-! ### Hexadecimal digits -/

/-- The number that some hexadecimal digits stand for. -/
def codeOf (digits : List Char) : ℕ :=
  digits.foldl (fun n c => 16 * n + (digitValue? c).getD 0) 0

lemma digitValue?_digitChar {n : ℕ} (hn : n < 16) : digitValue? n.digitChar = some n := by
  interval_cases n <;> decide

lemma codeOf_concat {d : ℕ} (hd : d < 16) (digits : List Char) :
    codeOf (digits ++ [d.digitChar]) = 16 * codeOf digits + d := by
  simp [codeOf, digitValue?_digitChar hd]

lemma codeOf_toDigits (n : ℕ) : codeOf (Nat.toDigits 16 n) = n := by
  induction n using Nat.strong_induction_on with
  | _ n ih =>
    obtain h | h := Nat.lt_or_ge n 16
    · rw [Nat.toDigits_of_lt_base h]
      simp [codeOf, digitValue?_digitChar h]
    · rw [Nat.toDigits_of_base_le (by decide) h, codeOf_concat (Nat.mod_lt n (by decide)),
        ih _ (by omega), Nat.div_add_mod]

/-- Leading zeros do not count. -/
lemma codeOf_zeros (k : ℕ) (digits : List Char) :
    codeOf (List.replicate k '0' ++ digits) = codeOf digits := by
  induction k with
  | zero => rfl
  | succ k ih =>
    rw [List.replicate_succ, List.cons_append, ← ih]
    rfl

lemma codeOf_hexDigits (width code : ℕ) : codeOf (hexDigits width code).toList = code := by
  rw [hexDigits, String.toList_ofList, codeOf_zeros, codeOf_toDigits]

lemma length_hexDigits {width code : ℕ} (hwidth : 0 < width) (hcode : code < 16 ^ width) :
    (hexDigits width code).toList.length = width := by
  have hle : (Nat.toDigits 16 code).length ≤ width :=
    (Nat.length_toDigits_le_iff (by decide) hwidth).2 hcode
  simp [hexDigits, hle]

/-! ### One character -/

/-- The character whose code is written in so many digits, and what is behind them. -/
def byCode (width : ℕ) (cs : List Char) : Char × List Char :=
  (Char.ofNat (codeOf (cs.take width)), cs.drop width)

/-- Reads one character from between quotes. -/
def unescape : List Char → Option (Char × List Char)
  | [] => none
  | c :: rest =>
    if c = '\\' then
      match rest with
      | 'n' :: rest => some ('\n', rest)
      | 'r' :: rest => some ('\r', rest)
      | 't' :: rest => some ('\t', rest)
      | 'x' :: rest => some (byCode 2 rest)
      | 'u' :: rest => some (byCode 4 rest)
      | 'U' :: rest => some (byCode 8 rest)
      | c :: rest => some (c, rest)
      | [] => none
    else some (c, rest)

lemma byCode_hexDigits {width : ℕ} (hwidth : 0 < width) {c : Char} (hc : c.toNat < 16 ^ width)
    (rest : List Char) : byCode width ((hexDigits width c.toNat).toList ++ rest) = (c, rest) := by
  have hlength := length_hexDigits hwidth hc
  rw [byCode, List.take_left' hlength, List.drop_left' hlength, codeOf_hexDigits,
    Char.ofNat_toNat]

section

variable {q : Char} (hq : q = '\'' ∨ q = '"')

include hq

/-- A character that is written between quotes is read back. -/
lemma unescape_escape (c : Char) (rest : List Char) :
    unescape ((escape q c).toList ++ rest) = some (c, rest) := by
  have hcode : c.toNat < 16 ^ 8 := c.val.toNat_lt
  unfold escape
  split_ifs with hquote hn hr ht hprintable hx hu
  · obtain rfl | rfl : c = q ∨ c = '\\' := by simpa using hquote
    · obtain rfl | rfl := hq <;> rfl
    · rfl
  · subst hn
    rfl
  · subst hr
    rfl
  · subst ht
    rfl
  · obtain ⟨-, hc⟩ : ¬ c = q ∧ ¬ c = '\\' := by simpa using hquote
    simp [unescape, hc]
  · have h := byCode_hexDigits (by decide : 0 < 2) hx rest
    simp [unescape, h]
  · have h := byCode_hexDigits (by decide : 0 < 4) hu rest
    simp [unescape, h]
  · have h := byCode_hexDigits (by decide : 0 < 8) hcode rest
    simp [unescape, h]

/-- Characters between quotes tell where they end. -/
lemma escaped_append_inj {cs ds u v : List Char}
    (h : cs.flatMap (fun c => (escape q c).toList) ++ q :: u =
      ds.flatMap (fun c => (escape q c).toList) ++ q :: v) : cs = ds ∧ u = v := by
  have hquote (rest : List Char) : unescape (q :: rest) = some (q, rest) := by
    obtain rfl | rfl := hq <;> rfl
  -- The quote itself is written after a backslash.
  have hne {c : Char} {rest rest' : List Char} : q :: rest ≠ (escape q c).toList ++ rest' := by
    intro heq
    have hread := congrArg unescape heq
    rw [hquote, unescape_escape hq] at hread
    obtain ⟨rfl, rfl⟩ : q = c ∧ rest = rest' := by simpa using hread
    simp [escape] at heq
  induction cs generalizing ds with
  | nil =>
    cases ds with
    | nil => simpa using h
    | cons d ds =>
      rw [List.flatMap_cons, List.append_assoc] at h
      exact absurd h hne
  | cons c cs ih =>
    cases ds with
    | nil =>
      rw [List.flatMap_cons, List.append_assoc] at h
      exact absurd h.symm hne
    | cons d ds =>
      rw [List.flatMap_cons, List.flatMap_cons, List.append_assoc, List.append_assoc] at h
      have hread := congrArg unescape h
      rw [unescape_escape hq, unescape_escape hq] at hread
      obtain ⟨rfl, hrest⟩ := Prod.mk.inj (Option.some.inj hread)
      obtain ⟨rfl, rfl⟩ := ih hrest
      exact ⟨rfl, rfl⟩

end

/-! ### Texts and lists -/

lemma quoteFor_cases (cs : List Char) : quoteFor cs = '\'' ∨ quoteFor cs = '"' := by
  unfold quoteFor
  split_ifs
  · exact .inr rfl
  · exact .inl rfl

lemma toList_quoted (s : String) : (quoted s).toList =
    quoteFor s.toList ::
      (s.toList.flatMap fun c => (escape (quoteFor s.toList) c).toList) ++ [quoteFor s.toList] := by
  simp [quoted, String.toList_append, List.flatMap_map]

/-- A quoted text is read back, and so is what stands behind it. -/
lemma quoted_append_inj {s t : String} {u v : List Char}
    (h : (quoted s).toList ++ u = (quoted t).toList ++ v) : s = t ∧ u = v := by
  rw [toList_quoted, toList_quoted] at h
  simp only [List.cons_append, List.append_assoc, List.nil_append] at h
  obtain ⟨hq, h⟩ := List.cons.inj h
  rw [← hq] at h
  obtain ⟨hst, huv⟩ := escaped_append_inj (quoteFor_cases _) h
  exact ⟨String.toList_inj.1 hst, huv⟩

/-- What is written of a list behind its first item. -/
def listTail : List String → List Char
  | [] => [']']
  | t :: ts => ',' :: ' ' :: (quoted t).toList ++ listTail ts

lemma listTail_injective : Function.Injective listTail := by
  intro ss ts h
  induction ss generalizing ts with
  | nil =>
    cases ts with
    | nil => rfl
    | cons t ts => simp [listTail] at h
  | cons s ss ih =>
    cases ts with
    | nil => simp [listTail] at h
    | cons t ts =>
      simp only [listTail, List.cons_append, List.cons.injEq, true_and] at h
      obtain ⟨rfl, hrest⟩ := quoted_append_inj h
      rw [ih hrest]

lemma toList_bracketed_cons (t : String) (ts : List String) :
    (bracketed ((t :: ts).map quoted)).toList = '[' :: (quoted t).toList ++ listTail ts := by
  have hrest : (", ".intercalate ((t :: ts).map quoted)).toList ++ [']'] =
      (quoted t).toList ++ listTail ts := by
    induction ts generalizing t with
    | nil => simp [listTail]
    | cons t' ts ih =>
      rw [List.map_cons, List.map_cons, String.intercalate_cons_cons, ← List.map_cons]
      simp [listTail, ← ih t']
  simp [bracketed, ← hrest]

/-- A list of quoted texts tells which texts they are. -/
theorem bracketed_quoted_injective :
    Function.Injective fun names : List String => bracketed (names.map quoted) := by
  intro ss ts h
  have h := congrArg String.toList h
  cases ss with
  | nil =>
    cases ts with
    | nil => rfl
    | cons t ts =>
      rw [toList_bracketed_cons] at h
      obtain hq | hq := quoteFor_cases t.toList <;> simp [bracketed, toList_quoted, hq] at h
  | cons s ss =>
    cases ts with
    | nil =>
      rw [toList_bracketed_cons] at h
      obtain hq | hq := quoteFor_cases s.toList <;> simp [bracketed, toList_quoted, hq] at h
    | cons t ts =>
      rw [toList_bracketed_cons, toList_bracketed_cons, List.cons_append, List.cons_append] at h
      obtain ⟨rfl, hrest⟩ := quoted_append_inj (List.cons.inj h).2
      rw [listTail_injective hrest]

end Provision.Text
