/-
The words of a name, found by rewriting it twice.

`separateWords` goes over a text once and looks at the neighbours of each character. The same words are
found by two patterns, one after the other: `([A-Z]+)([A-Z][a-z])` takes a word off the capitals in
front of it, and `([a-z\d])([A-Z])` takes it off what is no capital. Either has two groups, and each of
its matches, leftmost first and without overlaps, is written again with an underscore between them.

* `Pattern.rewrite`: a text rewritten by a pattern.
* `Pattern.Apart`: what keeps the matches of a pattern apart, and `rewrite_eq_separate`, which needs it: each
  character then decides by itself whether an underscore follows it.
* `separateWords_eq_rewrite`: the two patterns find the words.
-/
import SceneLang.Proofs.Numerals
import SceneLang.Text.SnakeCase

namespace SceneLang.Text

/-! ## Classes of characters -/

theorem isCapital_iff {c : Char} : isCapital c = true ↔ 65 ≤ c.toNat ∧ c.toNat ≤ 90 := by
  simp only [isCapital, Bool.and_eq_true, decide_eq_true_eq]
  exact Iff.rfl

theorem isSmall_iff {c : Char} : isSmall c = true ↔ 97 ≤ c.toNat ∧ c.toNat ≤ 122 := by
  simp only [isSmall, Bool.and_eq_true, decide_eq_true_eq]
  exact Iff.rfl

/-- Whether a character stands inside a word: a small letter or a digit. -/
def isInner (c : Char) : Bool := isSmall c || isDecimalDigit c

/-- What stands inside a word starts none. -/
theorem isCapital_of_isInner {c : Char} (h : isInner c = true) : isCapital c = false := by
  rw [Bool.eq_false_iff, ne_eq, isCapital_iff]
  rcases Bool.or_eq_true_iff.1 h with hsmall | hdigit
  · have := isSmall_iff.1 hsmall
    omega
  · have := toNat_of_isDecimalDigit hdigit
    omega

theorem isInner_of_isCapital {c : Char} (h : isCapital c = true) : isInner c = false := by
  rw [Bool.eq_false_iff]
  intro hc
  rw [isCapital_of_isInner hc] at h
  cases h

theorem isCapital_of_isSmall {c : Char} (h : isSmall c = true) : isCapital c = false :=
  isCapital_of_isInner (by simp [isInner, h])

/-! ## Patterns of two groups -/

/-- A pattern of two groups. -/
structure Pattern where
  /-- the characters of the first group -/
  lead : Char → Bool
  /-- whether the first group is as many characters as can be, and not just one -/
  repeated : Bool
  /-- the characters of the second group, one after the other -/
  follow : List (Char → Bool)

/-- The two groups of a match, and the text behind it. -/
structure Match where
  first : List Char
  second : List Char
  rest : List Char

/-- One character of each kind at the front of a text, and what stands behind them. -/
def readEach : List (Char → Bool) → List Char → Option (List Char × List Char)
  | [], text => some ([], text)
  | _ :: _, [] => none
  | kind :: kinds, c :: text =>
    if kind c then (readEach kinds text).map fun (taken, rest) => (c :: taken, rest) else none

variable {text second rest : List Char}

theorem exists_of_readEach {kind : Char → Bool} {kinds : List (Char → Bool)}
    (h : readEach (kind :: kinds) text = some (second, rest)) : ∃ c after taken,
      kind c = true ∧ text = c :: after ∧ readEach kinds after = some (taken, rest) ∧ second = c :: taken := by
  cases text with
  | nil => cases h
  | cons c after =>
    rw [readEach] at h
    split at h
    · next hc =>
      obtain ⟨⟨taken, rest'⟩, hread, heq⟩ := Option.map_eq_some_iff.1 h
      cases heq
      exact ⟨c, after, taken, hc, rfl, hread, rfl⟩
    · cases h

theorem length_of_readEach {kinds : List (Char → Bool)} (h : readEach kinds text = some (second, rest)) :
    rest.length ≤ text.length := by
  induction kinds generalizing text second with
  | nil =>
    cases h
    exact Nat.le_refl _
  | cons kind kinds ih =>
    obtain ⟨c, after, taken, -, rfl, hafter, -⟩ := exists_of_readEach h
    exact Nat.le_succ_of_le (ih hafter)

namespace Pattern

/-- The match of a pattern at the front of a text. A first group that is repeated goes on as long as
something is left for the second one. -/
def read (p : Pattern) : List Char → Option Match
  | [] => none
  | c :: text =>
    if p.lead c then
      ((if p.repeated then p.read text else none).map fun m => { m with first := c :: m.first }).or
        ((readEach p.follow text).map fun (second, rest) => ⟨[c], second, rest⟩)
    else none

variable {p : Pattern} {c : Char} {m : Match}

/-- A match begins with a character of the first group, and either goes on with a match behind it or has
the second group there. -/
theorem of_read_cons (h : p.read (c :: text) = some m) : p.lead c = true ∧
    ((∃ m', p.repeated = true ∧ p.read text = some m' ∧ m = { m' with first := c :: m'.first }) ∨
      ∃ second rest, readEach p.follow text = some (second, rest) ∧ m = ⟨[c], second, rest⟩) := by
  rw [read] at h
  split at h
  · next hlead =>
    refine ⟨hlead, ?_⟩
    rcases Option.or_eq_some_iff.1 h with hmore | ⟨-, hlast⟩
    · obtain ⟨m', hm', rfl⟩ := Option.map_eq_some_iff.1 hmore
      split at hm'
      · next hrepeated => exact .inl ⟨m', hrepeated, hm', rfl⟩
      · cases hm'
    · obtain ⟨⟨second, rest⟩, hread, rfl⟩ := Option.map_eq_some_iff.1 hlast
      exact .inr ⟨second, rest, hread, rfl⟩
  · cases h

/-- A match takes something off the text. -/
theorem length_of_read (h : p.read text = some m) : m.rest.length < text.length := by
  induction text generalizing m with
  | nil => cases h
  | cons c text ih =>
    obtain ⟨-, ⟨m', -, hm', rfl⟩ | ⟨second, rest, hread, rfl⟩⟩ := of_read_cons h
    · exact Nat.lt_succ_of_lt (ih (m := m') hm')
    · exact Nat.lt_succ_of_le (length_of_readEach hread)

/-- A text with an underscore between the two groups of each match. A match is looked for at every
character from the left, and behind the match if there is one. -/
def rewrite (p : Pattern) : List Char → List Char
  | [] => []
  | c :: text =>
    match _h : p.read (c :: text) with
    | some m => m.first ++ '_' :: (m.second ++ p.rewrite m.rest)
    | none => c :: p.rewrite text
termination_by text => text.length
decreasing_by
  · exact length_of_read _h
  · exact Nat.lt_succ_self _

/-! ## Underscores one by one -/

/-- Whether an underscore belongs behind a character, with the given text after it. -/
def splits (p : Pattern) (c : Char) (after : List Char) : Bool := p.lead c && (readEach p.follow after).isSome

/-- A text with an underscore wherever one belongs. -/
def separate (p : Pattern) : List Char → List Char
  | [] => []
  | c :: after => if p.splits c after then c :: '_' :: p.separate after else c :: p.separate after

/-- What keeps the matches of a pattern apart: in front of a match no further character of the first group
has the second one behind it, and no match begins in the second group of another. -/
structure Apart (p : Pattern) : Prop where
  run : ∀ c text m, p.repeated = true → p.read text = some m → p.splits c text = false
  follow : ∀ text second rest, readEach p.follow text = some (second, rest) →
    p.separate text = second ++ p.separate rest

theorem separate_of_read (hp : p.Apart) (h : p.read text = some m) :
    p.separate text = m.first ++ '_' :: (m.second ++ p.separate m.rest) := by
  induction text generalizing m with
  | nil => cases h
  | cons c text ih =>
    obtain ⟨hlead, ⟨m', hrepeated, hm', rfl⟩ | ⟨second, rest, hread, rfl⟩⟩ := of_read_cons h
    · have hsplits := hp.run c text m' hrepeated hm'
      rw [separate, if_neg (by simp [hsplits]), ih hm']
      rfl
    · have hsplits : p.splits c text = true := by simp [splits, hlead, hread]
      rw [separate, if_pos hsplits, hp.follow text second rest hread]
      rfl

theorem splits_of_read (h : p.read (c :: text) = none) : p.splits c text = false := by
  rw [Bool.eq_false_iff]
  intro hsplits
  obtain ⟨hlead, hfollow⟩ := Bool.and_eq_true_iff.1 hsplits
  obtain ⟨⟨second, rest⟩, hread⟩ := Option.isSome_iff_exists.1 hfollow
  rw [read, if_pos hlead, Option.or_eq_none_iff, hread] at h
  cases h.2

/-- Where matches keep apart, rewriting them puts an underscore wherever one belongs. -/
theorem rewrite_eq_separate (hp : p.Apart) (text : List Char) : p.rewrite text = p.separate text := by
  fun_induction p.rewrite text with
  | case1 => rfl
  | case2 c text m h ih => rw [separate_of_read hp h, ih]
  | case3 c text h ih => rw [separate, if_neg (by simp [splits_of_read h]), ih]

end Pattern

/-! ## The two patterns -/

/-- Capitals, as many as can be, and then a word that starts with a capital and a small letter:
`([A-Z]+)([A-Z][a-z])`. -/
def acronym : Pattern := ⟨isCapital, true, [isCapital, isSmall]⟩

/-- A small letter or a digit, and then a capital: `([a-z\d])([A-Z])`. -/
def boundary : Pattern := ⟨isInner, false, [isCapital]⟩

theorem exists_of_readEach_acronym (h : readEach acronym.follow text = some (second, rest)) :
    ∃ d e, isCapital d = true ∧ isSmall e = true ∧ text = d :: e :: rest ∧ second = [d, e] := by
  obtain ⟨d, after, taken, hd, rfl, hafter, rfl⟩ := exists_of_readEach h
  obtain ⟨e, after, taken, he, rfl, hnil, rfl⟩ := exists_of_readEach hafter
  cases hnil
  exact ⟨d, e, hd, he, rfl, rfl⟩

theorem exists_of_readEach_boundary (h : readEach boundary.follow text = some (second, rest)) :
    ∃ d, isCapital d = true ∧ text = d :: rest ∧ second = [d] := by
  obtain ⟨d, after, taken, hd, rfl, hnil, rfl⟩ := exists_of_readEach h
  cases hnil
  exact ⟨d, hd, rfl, rfl⟩

/-- A match of capitals has two capitals in front. -/
theorem exists_capitals {m : Match} (h : acronym.read text = some m) :
    ∃ d e after, isCapital d = true ∧ isCapital e = true ∧ text = d :: e :: after := by
  cases text with
  | nil => cases h
  | cons d text =>
    obtain ⟨hd, ⟨m', -, hm', -⟩ | ⟨second, rest, hread, -⟩⟩ := Pattern.of_read_cons h
    · cases text with
      | nil => cases hm'
      | cons e after => exact ⟨d, e, after, hd, (Pattern.of_read_cons hm').1, rfl⟩
    · obtain ⟨e, -, he, -, rfl, -⟩ := exists_of_readEach_acronym hread
      exact ⟨d, e, _, hd, he, rfl⟩

theorem apart_acronym : acronym.Apart where
  run c text m _ hread := by
    obtain ⟨d, e, after, hd, he, rfl⟩ := exists_capitals hread
    have hsmall : isSmall e = false := (Bool.or_eq_false_iff.1 (isInner_of_isCapital he)).1
    simp [Pattern.splits, acronym, readEach, hd, hsmall]
  follow text second rest hread := by
    obtain ⟨d, e, hd, he, rfl, rfl⟩ := exists_of_readEach_acronym hread
    have hcapital := isCapital_of_isSmall he
    have hfirst : acronym.splits d (e :: rest) = false := by
      simp [Pattern.splits, acronym, readEach, hcapital]
    have hsecond : acronym.splits e rest = false := by
      simp [Pattern.splits, acronym, hcapital]
    simp [Pattern.separate, hfirst, hsecond]

theorem apart_boundary : boundary.Apart where
  run c text m hrepeated := by cases hrepeated
  follow text second rest hread := by
    obtain ⟨d, hd, rfl, rfl⟩ := exists_of_readEach_boundary hread
    have hsplits : boundary.splits d rest = false := by
      simp [Pattern.splits, boundary, isInner_of_isCapital hd]
    simp [Pattern.separate, hsplits]

/-! ## One pattern and then the other -/

theorem splits_acronym (c d : Char) (after : List Char) :
    acronym.splits c (d :: after) = (isCapital c && isCapital d && after.head?.any isSmall) := by
  rw [Pattern.splits, acronym, readEach]
  cases after with
  | nil => cases isCapital d <;> simp [readEach]
  | cons e after => cases isCapital d <;> cases he : isSmall e <;> simp [readEach, he]

theorem splits_boundary (c d : Char) (after : List Char) :
    boundary.splits c (d :: after) = (isInner c && isCapital d) := by
  rw [Pattern.splits, boundary, readEach]
  cases isCapital d <;> simp [readEach]

theorem splits_nil (p : Pattern) (c : Char) (h : p.follow ≠ []) : p.splits c [] = false := by
  rw [Pattern.splits]
  cases hfollow : p.follow with
  | nil => exact absurd hfollow h
  | cons => simp [readEach]

theorem startsWord_eq (c d : Char) (after : List Char) :
    startsWord c d after = (acronym.splits c (d :: after) || boundary.splits c (d :: after)) := by
  rw [splits_acronym, splits_boundary, startsWord, isInner]
  cases isCapital d <;> simp [Bool.or_comm]

theorem separateWords_cons_cons (c d : Char) (after : List Char) : separateWords (c :: d :: after) =
    if startsWord c d after then c :: '_' :: separateWords (d :: after) else c :: separateWords (d :: after) := by
  rw [separateWords, separateAfter]
  split <;> rfl

/-- An underscore is no part of a match. -/
theorem separate_underscore (c : Char) (text : List Char) :
    boundary.separate (c :: '_' :: text) = c :: '_' :: boundary.separate text := by
  have hbefore : boundary.splits c ('_' :: text) = false := by
    rw [splits_boundary, show isCapital '_' = false by decide, Bool.and_false]
  have hbehind : boundary.splits '_' text = false := by
    rw [Pattern.splits, show boundary.lead '_' = false by decide, Bool.false_and]
  simp [Pattern.separate, hbefore, hbehind]

theorem separate_separate (text : List Char) : boundary.separate (acronym.separate text) = separateWords text := by
  induction text with
  | nil => rfl
  | cons c text ih =>
    cases text with
    | nil => simp [Pattern.separate, splits_nil, acronym, boundary, separateWords, separateAfter]
    | cons d after =>
      rw [separateWords_cons_cons, startsWord_eq, ← ih, Pattern.separate]
      by_cases hfirst : acronym.splits c (d :: after) = true
      · rw [if_pos hfirst, if_pos (by simp [hfirst]), separate_underscore]
      · -- the first pattern leaves the two characters side by side
        have hhead : ∃ more, acronym.separate (d :: after) = d :: more := by
          rw [Pattern.separate]
          split <;> exact ⟨_, rfl⟩
        obtain ⟨more, hmore⟩ := hhead
        rw [if_neg hfirst, hmore, Pattern.separate, splits_boundary, splits_boundary]
        simp [hfirst]

/-- **The words of a name.** They are found by rewriting it with one pattern and then with the other. -/
theorem separateWords_eq_rewrite (text : List Char) :
    separateWords text = boundary.rewrite (acronym.rewrite text) := by
  rw [Pattern.rewrite_eq_separate apart_acronym, Pattern.rewrite_eq_separate apart_boundary, separate_separate]

end SceneLang.Text
