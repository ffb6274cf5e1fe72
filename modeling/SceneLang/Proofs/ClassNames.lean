/-
Names that follow from class names.

A class name is made of words and an ending: each word is a capital with small letters and digits behind
it. A class without a name of its own goes by the words in lower case, with underscores between them,
whatever the classes it inherits from are called. No word has an underscore in it, so the words can be
told from the name, and commands of classes of other words do not take each other's place in a registry.
The ending is taken off once, so a word may be the same as it.

* `snakeCase_of_letters`: what becomes of a text of letters.
* `commandName_title`: the name that a class name in words stands for.
* `joined_injective`: the name tells the words.
* `CommandClass.named_by_words`: what classes are called and where their commands are filed.
-/
import SceneLang.Command.Class
import SceneLang.Proofs.Names
import SceneLang.Proofs.Registration
import SceneLang.Proofs.Rewriting

namespace SceneLang

namespace Text

/-! ## Lower case -/

/-- Whether a character stands in words: a capital, a small letter or a digit. -/
def isLetter (c : Char) : Bool := isCapital c || isInner c

/-- What no capital of the table is near is its own lower case. -/
theorem lowerChar_eq_self {c : Char} (h : ∀ r ∈ capitals, c.toNat < r.1 ∨ r.2.1 < c.toNat) :
    lowerChar c = c := by
  unfold lowerChar
  dsimp only
  split
  · next first last step target hfind =>
    have hapart : c.toNat < first ∨ last < c.toNat := h _ (List.mem_of_find?_eq_some hfind)
    have hin := List.find?_some hfind
    simp only [Bool.and_eq_true, decide_eq_true_eq] at hin
    omega
  · rfl

theorem lowerChar_of_isInner {c : Char} (h : isInner c = true) : lowerChar c = c := by
  refine lowerChar_eq_self fun r hr => ?_
  rcases Bool.or_eq_true_iff.1 h with hsmall | hdigit
  · have hc := isSmall_iff.1 hsmall
    have hrows : ∀ r ∈ capitals, r.2.1 = 90 ∨ 123 ≤ r.1 := by decide +kernel
    have := hrows r hr
    omega
  · obtain ⟨z, hz, hle, hlt⟩ := isDecimalDigit_iff.1 hdigit
    have hrows : (zeros.all fun z => capitals.all fun r => (z + 10).ble r.1 || r.2.1.blt z) = true := by
      decide +kernel
    have hrow := List.all_eq_true.1 (List.all_eq_true.1 hrows z hz) r hr
    simp only [Bool.or_eq_true, Nat.ble_eq, Nat.blt_eq] at hrow
    omega

/-- What holds of every capital in ASCII holds of every capital. -/
theorem of_isCapital {p : Char → Bool}
    (h : (List.range 128).all (fun n => !isCapital (Char.ofNat n) || p (Char.ofNat n)) = true) {c : Char}
    (hc : isCapital c = true) : p c = true := by
  have hascii : c.toNat < 128 := by
    have := isCapital_iff.1 hc
    omega
  have hat := of_ascii (p := fun c => !isCapital c || p c) h hascii
  rwa [hc, Bool.not_true, Bool.false_or] at hat

theorem lowerChar_of_isCapital {c : Char} (h : isCapital c = true) : lowerChar c = c.toLower :=
  beq_iff_eq.1 (of_isCapital (p := fun c => lowerChar c == c.toLower) (by decide +kernel) h)

theorem toLower_of_isInner {c : Char} (h : isInner c = true) : c.toLower = c := by
  have hcapital : ¬isCapital c = true := by simp [isCapital_of_isInner h]
  rw [isCapital_iff] at hcapital
  exact toLower_eq_self (by omega)

theorem lowerAt_of_isLetter {c : Char} (h : isLetter c = true) (before after : List Char) :
    lowerAt before c after = [c.toLower] := by
  have hsigma : c ≠ 'Σ' := by
    rintro rfl
    exact absurd h (by decide)
  have hdotted : c ≠ 'İ' := by
    rintro rfl
    exact absurd h (by decide)
  rw [lowerAt, if_neg hsigma, if_neg hdotted]
  rcases Bool.or_eq_true_iff.1 h with hcapital | hinner
  · rw [lowerChar_of_isCapital hcapital]
  · rw [lowerChar_of_isInner hinner, toLower_of_isInner hinner]

theorem lowerAt_underscore (before after : List Char) : lowerAt before '_' after = ['_'] := by
  have hlower : lowerChar '_' = '_' := by decide +kernel
  rw [lowerAt, if_neg (by decide), if_neg (by decide), hlower]

/-- Letters with underscores among them have a lower case each by itself. -/
theorem lower_of_letters {text : List Char} (h : ∀ c ∈ text, isLetter c = true ∨ c = '_') :
    lower text = text.map Char.toLower := by
  have hafter (before : List Char) : lowerAfter before text = text.map Char.toLower := by
    induction text generalizing before with
    | nil => rfl
    | cons c text ih =>
      rw [List.forall_mem_cons] at h
      rw [lowerAfter, ih h.2, List.map_cons]
      rcases h.1 with hletter | rfl
      · rw [lowerAt_of_isLetter hletter]
        rfl
      · rw [lowerAt_underscore]
        rfl
  exact hafter []

/-! ## Texts of letters -/

theorem mem_separateAfter {before c : Char} {text : List Char} (h : c ∈ separateAfter before text) :
    c ∈ text ∨ c = '_' := by
  induction text generalizing before with
  | nil => exact .inl h
  | cons d after ih =>
    have hcons : c = '_' ∨ c = d ∨ c ∈ separateAfter d after := by
      rw [separateAfter] at h
      split at h
      · simpa using h
      · exact .inr (List.mem_cons.1 h)
    rcases hcons with hc | rfl | hc
    · exact .inr hc
    · exact .inl (List.mem_cons_self ..)
    · exact (ih hc).imp_left (List.mem_cons_of_mem _)

theorem mem_separateWords {text : List Char} {c : Char} (h : c ∈ separateWords text) : c ∈ text ∨ c = '_' := by
  cases text with
  | nil => exact .inl h
  | cons d after =>
    rcases List.mem_cons.1 h with rfl | hc
    · exact .inl (List.mem_cons_self ..)
    · exact (mem_separateAfter hc).imp_left (List.mem_cons_of_mem _)

/-- A text of letters is taken apart and put in lower case, and that is all. -/
theorem snakeCase_of_letters {text : List Char} (h : ∀ c ∈ text, isLetter c = true) :
    snakeCase text = (separateWords text).map Char.toLower := by
  have hletters : ∀ c ∈ separateWords text, isLetter c = true ∨ c = '_' :=
    fun c hc => (mem_separateWords hc).imp_left (h c)
  have hhyphens : (separateWords text).map (fun c => if c = '-' then '_' else c) = separateWords text := by
    refine (List.map_congr_left fun c hc => if_neg ?_).trans (List.map_id _)
    rintro rfl
    exact absurd (hletters _ hc) (by decide)
  rw [snakeCase, hhyphens, lower_of_letters hletters]

/-! ## Words -/

/-- A word of a class name: a capital, and behind it small letters and digits of whatever script, at least
one of them. -/
structure Word where
  initial : Char
  tail : List Char
  isCapital_initial : isCapital initial = true
  tail_ne_nil : tail ≠ []
  isInner_tail : ∀ c ∈ tail, isInner c = true
  deriving DecidableEq

namespace Word

/-- A word as it stands in a class name. -/
def letters (w : Word) : List Char := w.initial :: w.tail

/-- A word in lower case. -/
def lowered (w : Word) : String := String.ofList (w.letters.map Char.toLower)

end Word

/-- The class name that is made of words. -/
def title (words : List Word) : String := String.ofList (words.flatMap Word.letters ++ commandSuffix)

/-- Words in lower case with underscores between them. -/
def joined (words : List Word) : String := "_".intercalate (words.map Word.lowered)

theorem Word.isLetter_of_mem (w : Word) : ∀ c ∈ w.letters, isLetter c = true := by
  refine List.forall_mem_cons.2 ⟨?_, fun c hc => ?_⟩
  · rw [isLetter, w.isCapital_initial, Bool.true_or]
  · rw [isLetter, w.isInner_tail c hc, Bool.or_true]

/-! ### Taken apart -/

/-- No word starts inside of a word, and whether one starts behind it goes by its last character. -/
theorem separateAfter_tail {tail : List Char} (h : ∀ c ∈ tail, isInner c = true) (hne : tail ≠ [])
    (before : Char) : ∃ last, isInner last = true ∧
      ∀ rest, separateAfter before (tail ++ rest) = tail ++ separateAfter last rest := by
  induction tail generalizing before with
  | nil => exact absurd rfl hne
  | cons c tail ih =>
    rw [List.forall_mem_cons] at h
    have hc (after : List Char) : separateAfter before (c :: after) = c :: separateAfter c after := by
      rw [separateAfter, if_neg (by simp [startsWord, isCapital_of_isInner h.1])]
    cases tail with
    | nil => exact ⟨c, h.1, hc⟩
    | cons d tail =>
      obtain ⟨last, hlast, hrest⟩ := ih h.2 (by simp) c
      refine ⟨last, hlast, fun rest => ?_⟩
      rw [List.cons_append, hc, hrest]
      rfl

theorem separateWords_letters (w : Word) : separateWords w.letters = w.letters := by
  obtain ⟨last, -, hrest⟩ := separateAfter_tail w.isInner_tail w.tail_ne_nil w.initial
  have hnil := hrest []
  rw [List.append_nil] at hnil
  rw [Word.letters, separateWords, hnil, separateAfter, List.append_nil]

theorem separateWords_append (w v : Word) (rest : List Char) :
    separateWords (w.letters ++ (v.letters ++ rest)) = w.letters ++ '_' :: separateWords (v.letters ++ rest) := by
  obtain ⟨last, hlast, hrest⟩ := separateAfter_tail w.isInner_tail w.tail_ne_nil w.initial
  have hstarts (after : List Char) : startsWord last v.initial after = true := by
    rw [startsWord, v.isCapital_initial, Bool.true_and, ← isInner, hlast, Bool.true_or]
  simp only [Word.letters, List.cons_append, separateWords, hrest]
  rw [separateAfter, if_pos (hstarts _)]

theorem separateWords_words (words : List Word) :
    separateWords (words.flatMap Word.letters) = ['_'].intercalate (words.map Word.letters) := by
  induction words with
  | nil => rfl
  | cons w words ih =>
    cases words with
    | nil => rw [List.flatMap_singleton, separateWords_letters, List.map_singleton, List.intercalate_singleton]
    | cons v words =>
      rw [List.flatMap_cons] at ih
      rw [List.flatMap_cons, List.flatMap_cons, separateWords_append, ih, List.map_cons, List.map_cons,
        List.map_cons, List.intercalate_cons_cons, List.append_assoc, List.singleton_append]

/-! ### In lower case -/

theorem map_intercalate (f : Char → Char) (separator : List Char) (pieces : List (List Char)) :
    (separator.intercalate pieces).map f = (separator.map f).intercalate (pieces.map (List.map f)) := by
  induction pieces with
  | nil => rfl
  | cons piece pieces ih =>
    cases pieces with
    | nil => simp
    | cons next pieces =>
      rw [List.map_cons, List.map_cons] at *
      rw [List.intercalate_cons_cons, List.intercalate_cons_cons, List.map_append, List.map_append, ih]

theorem toList_joined (words : List Word) :
    (joined words).toList = ['_'].intercalate (words.map fun w => w.letters.map Char.toLower) := by
  simp [joined, String.toList_intercalate, Word.lowered, Function.comp_def]

theorem dropEnding_append (text ending : List Char) : dropEnding ending (text ++ ending) = text := by
  rw [dropEnding, if_pos (by simp)]
  simp

/-- **The name of a class name.** It is the words of the class name in lower case, with underscores between
them. -/
theorem commandName_title (words : List Word) : commandName (title words) = joined words := by
  have hletters : ∀ c ∈ words.flatMap Word.letters, isLetter c = true := by
    intro c hc
    obtain ⟨w, -, hw⟩ := List.mem_flatMap.1 hc
    exact w.isLetter_of_mem c hw
  rw [commandName, title, String.toList_ofList, dropEnding_append, snakeCase_of_letters hletters,
    separateWords_words, map_intercalate, ← String.toList_inj, String.toList_ofList, toList_joined, List.map_map]
  rfl

/-! ### Told from the name -/

theorem toUpper_toLower {c : Char} (h : isCapital c = true) : c.toLower.toUpper = c :=
  beq_iff_eq.1 (of_isCapital (p := fun c => c.toLower.toUpper == c) (by decide +kernel) h)

theorem toLower_ne_underscore {c : Char} (h : isLetter c = true) : c.toLower ≠ '_' := by
  intro hc
  rcases Bool.or_eq_true_iff.1 h with hcapital | hinner
  · exact bne_iff_ne.1 (of_isCapital (p := fun c => c.toLower != '_') (by decide +kernel) hcapital) hc
  · rw [toLower_of_isInner hinner] at hc
    rw [hc] at hinner
    exact absurd hinner (by decide)

theorem Word.map_toLower_tail (w : Word) : w.tail.map Char.toLower = w.tail :=
  (List.map_congr_left fun c hc => toLower_of_isInner (w.isInner_tail c hc)).trans (List.map_id _)

/-- Only the first character of a word changes, and it can be told from its lower case. -/
theorem Word.eq_of_lowered {w v : Word} (h : w.lowered = v.lowered) : w = v := by
  rw [lowered, lowered, String.ofList_inj, letters, letters, List.map_cons, List.map_cons, map_toLower_tail,
    map_toLower_tail] at h
  obtain ⟨hinitial, htail⟩ := List.cons.inj h
  have hupper : w.initial = v.initial := by
    rw [← toUpper_toLower w.isCapital_initial, hinitial, toUpper_toLower v.isCapital_initial]
  cases w
  cases v
  cases hupper
  cases htail
  rfl

theorem splitOn_joined {words : List Word} (h : words ≠ []) :
    (joined words).toList.splitOn '_' = words.map fun w => w.lowered.toList := by
  rw [toList_joined, List.splitOn_intercalate '_' _ (by simpa using h)]
  · simp [Word.lowered]
  · intro piece hpiece hmem
    obtain ⟨w, -, rfl⟩ := List.mem_map.1 hpiece
    obtain ⟨c, hc, hlower⟩ := List.mem_map.1 hmem
    exact toLower_ne_underscore (w.isLetter_of_mem c hc) hlower

theorem joined_ne_empty (w : Word) (words : List Word) : joined (w :: words) ≠ "" := by
  rw [ne_eq, ← String.toList_inj, toList_joined]
  cases words with
  | nil => simp [Word.letters]
  | cons v words => simp [Word.letters, List.intercalate_cons_cons]

theorem joined_injective {words words' : List Word} (h : joined words = joined words') : words = words' := by
  cases words with
  | nil =>
    cases words' with
    | nil => rfl
    | cons w words' => exact absurd h.symm (joined_ne_empty w words')
  | cons w words =>
    cases words' with
    | nil => exact absurd h (joined_ne_empty w words)
    | cons w' words' =>
      have hsplit := splitOn_joined (List.cons_ne_nil w words)
      rw [h, splitOn_joined (List.cons_ne_nil w' words')] at hsplit
      refine (List.map_injective_iff.2 ?_ hsplit).symm
      exact fun v v' hv => Word.eq_of_lowered (String.toList_inj.1 hv)

end Text

/-! ## Classes -/

namespace CommandClass

open Text

/-- A name is found in the class itself. -/
theorem name_eq_heldName (c : CommandClass) : c.name = c.heldName := rfl

/-- In a line of classes each goes by its own name or its own class name, whatever stands before it. -/
theorem names_chain (inherited : List (Option String)) (links : List (String × Option String)) :
    (chain inherited links).map name =
      links.map fun link => (link.2.filter (· ≠ "")).getD (commandName link.1) := by
  induction links generalizing inherited with
  | nil => rfl
  | cons link links ih => exact congrArg (_ :: ·) (ih _)

/-- A class without a name of its own whose class name is made of words. -/
structure Titled (c : CommandClass) (words : List Word) : Prop where
  className : c.className = title words
  unnamed : ∀ name ∈ c.ownName, name = ""

variable {words words' : List Word} {c c' : CommandClass}

theorem Titled.name_eq (h : c.Titled words) : c.name = joined words := by
  have hfilter : c.ownName.filter (· ≠ "") = none := by
    rw [Option.filter_eq_none_iff]
    intro name hname
    simp [h.unnamed name hname]
  rw [name_eq_heldName, heldName, hfilter, Option.getD_none, h.className, commandName_title]

/-- **What classes are called.** A class without a name of its own whose class name is made of words goes by
these words in lower case with underscores between them, whatever it inherits. Two such classes have the
same name only if their words are the same, and only then does a command of one take the place of a
command of the other in a registry. The words of any text are the ones that two rewritings find, one
after the other. -/
theorem named_by_words (text : List Char) (hc : c.Titled words) (hc' : c'.Titled words') {a a' : Command}
    (ha : a.listing = c.name) (ha' : a'.listing = c'.name) (r : Registry) :
    c.name = "_".intercalate (words.map Word.lowered) ∧ (c.name = c'.name ↔ words = words') ∧
      ((r.register a).register a').get? c.name = some (if words = words' then a' else a) ∧
      snakeCase text =
        lower ((boundary.rewrite (acronym.rewrite text)).map fun c => if c = '-' then '_' else c) := by
  have hname : c.name = c'.name ↔ words = words' := by
    rw [hc.name_eq, hc'.name_eq]
    exact ⟨joined_injective, fun h => h ▸ rfl⟩
  refine ⟨hc.name_eq, hname, ?_, ?_⟩
  · rw [Registry.get?_register, Registry.get?_register, ha, ha']
    simp only [hname]
    split <;> rfl
  · rw [snakeCase, separateWords_eq_rewrite]

/-- A class whose last word is the same as the ending, and the class of the other words. Each inherits from
a class that has the name of the other. -/
theorem named_by_words_ending :
    let scene : Word := ⟨'S', "cene3d".toList, by decide, by decide, List.all_eq_true.1 (by decide)⟩
    let command : Word := ⟨'C', "ommand".toList, by decide, by decide, List.all_eq_true.1 (by decide)⟩
    let c : CommandClass := ⟨"Scene3dCommandCommand", none, [some "scene3d", some ""]⟩
    let c' : CommandClass := ⟨"Scene3dCommand", some "", [none, some "scene3d_command", some ""]⟩
    let a := { Command.createElement with listing := "scene3d_command" }
    let a' := { Command.deleteElement with listing := "scene3d" }
    c.Titled [scene, command] ∧ c'.Titled [scene] ∧ a.listing = c.name ∧ a'.listing = c'.name ∧
      c.name = "scene3d_command" ∧ c.name ≠ c'.name ∧
      ((Registry.default.register a).register a').get? c.name = some a ∧
      snakeCase "HTTPServer-2Go".toList = "http_server_2_go".toList := by
  intro scene command c c' a a'
  have hc : c.Titled [scene, command] := ⟨by decide, by simp [c]⟩
  have hc' : c'.Titled [scene] := ⟨by decide, by simp [c']⟩
  have ha : a.listing = c.name := by decide +kernel
  have ha' : a'.listing = c'.name := by decide +kernel
  obtain ⟨hname, hsame, hget, hsnake⟩ := named_by_words "HTTPServer-2Go".toList hc hc' ha ha' Registry.default
  have hwords : [scene, command] ≠ [scene] := by decide
  rw [if_neg hwords] at hget
  refine ⟨hc, hc', ha, ha', hname.trans ?_, fun h => hwords (hsame.1 h), hget, hsnake.trans ?_⟩
  · decide +kernel
  · decide +kernel

/-- A command that every session can have goes by its class name. -/
example : commandName "SetPropertyCommand" = Command.setProperty.name := by decide +kernel

end CommandClass

end SceneLang
