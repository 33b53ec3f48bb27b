/-!
White space in the sense of the Unicode property `White_Space`, and trimming by it. The ASCII part
contains core's `Char.isWhitespace`, vertical tab and form feed.
-/

namespace DualServer.Text

def isBlank (c : Char) : Bool :=
  let n := c.toNat
  (9 ≤ n && n ≤ 13) || n == 0x20 || n == 0x85 || n == 0xA0 || n == 0x1680 ||
    (0x2000 ≤ n && n ≤ 0x200A) || n == 0x2028 || n == 0x2029 || n == 0x202F || n == 0x205F ||
    n == 0x3000

def trimBlankChars (cs : List Char) : List Char :=
  ((cs.dropWhile isBlank).reverse.dropWhile isBlank).reverse

/-- Blanks around a text do not matter. -/
theorem trimBlankChars_append {before cs after : List Char}
    (hbefore : ∀ c ∈ before, isBlank c = true) (hafter : ∀ c ∈ after, isBlank c = true) :
    trimBlankChars (before ++ cs ++ after) = trimBlankChars cs := by
  unfold trimBlankChars
  rw [List.append_assoc, List.dropWhile_append_of_pos hbefore, List.dropWhile_append]
  split
  next hblank =>
    have hdropped : (after ++ []).dropWhile isBlank = [] := List.dropWhile_append_of_pos hafter
    rw [List.append_nil] at hdropped
    rw [hdropped, List.isEmpty_iff.mp hblank]
  next =>
    rw [List.reverse_append, List.dropWhile_append_of_pos]
    exact fun c hc => hafter c (List.mem_reverse.mp hc)

theorem trimBlankChars_eq_self {cs : List Char} (h : ∀ c ∈ cs, isBlank c = false) :
    trimBlankChars cs = cs := by
  have hkept {cs : List Char} (h : ∀ c ∈ cs, isBlank c = false) : cs.dropWhile isBlank = cs := by
    cases cs with
    | nil => rfl
    | cons c cs => rw [List.dropWhile_cons, h c List.mem_cons_self, if_neg Bool.false_ne_true]
  unfold trimBlankChars
  rw [hkept h, hkept fun c hc => h c (List.mem_reverse.mp hc), List.reverse_reverse]

/-- Trimming takes away blanks only. -/
theorem exists_blanks_around (cs : List Char) :
    ∃ before after : List Char, (∀ c ∈ before, isBlank c = true) ∧
      (∀ c ∈ after, isBlank c = true) ∧ cs = before ++ trimBlankChars cs ++ after := by
  have hblank {cs : List Char} : ∀ c ∈ cs.takeWhile isBlank, isBlank c = true := fun c hc =>
    (List.all_eq_true.mp List.all_takeWhile) c hc
  let rest := cs.dropWhile isBlank
  have hrest : trimBlankChars cs ++ (rest.reverse.takeWhile isBlank).reverse = rest := by
    rw [trimBlankChars, ← List.reverse_append, List.takeWhile_append_dropWhile,
      List.reverse_reverse]
  refine ⟨cs.takeWhile isBlank, (rest.reverse.takeWhile isBlank).reverse, hblank, ?_, ?_⟩
  · exact fun c hc => hblank c (List.mem_reverse.mp hc)
  · rw [List.append_assoc, hrest, List.takeWhile_append_dropWhile]

/-- What can be seen in ASCII is not blank. -/
theorem isBlank_eq_false {c : Char} (hlow : 0x20 < c.toNat) (hhigh : c.toNat < 0x7F) :
    isBlank c = false := by
  simp only [isBlank, Bool.or_eq_false_iff, Bool.and_eq_false_iff, decide_eq_false_iff_not,
    beq_eq_false_iff_ne]
  omega

def trimBlank (s : String) : String := String.ofList (trimBlankChars s.toList)

end DualServer.Text
