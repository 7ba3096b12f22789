import BusReplay.Proofs.CommandLine.Occurrence
import Mathlib.Data.List.TakeWhile

/-!
# Values attached to options

Tokens that leave no option open carry their values with them. What they give is then told by the
texts attached to each option: the last one decides an option with a single value, and the classes
of a filter are all of them in their order.
-/

namespace BusReplay.CommandLine

/-- The text that a token attaches to an option. -/
def Token.value? (key : OptionKey) : Token → Option String
  | attached other value => if other = key then some value else none
  | _ => none

/-- The texts attached to an option before the two dashes, in their order. -/
def attachedValues (texts : List String) (key : OptionKey) : List String :=
  (texts.takeWhile (· ≠ "--")).filterMap fun text ↦ (Token.ofText text).value? key

theorem attachedValues_cons {text : String} (hdashes : text ≠ "--") (texts : List String)
    (key : OptionKey) : attachedValues (text :: texts) key =
      ((Token.ofText text).value? key).toList ++ attachedValues texts key := by
  unfold attachedValues
  rw [List.takeWhile_cons_of_pos (by simpa using hdashes), List.filterMap_cons]
  cases (Token.ofText text).value? key <;> rfl

theorem attachedValues_takeWhile (texts : List String) (key : OptionKey) :
    attachedValues (texts.takeWhile (· ≠ "--")) key = attachedValues texts key := by
  unfold attachedValues
  rw [List.takeWhile_idem]

theorem readChoice_eq_ok_iff {α : Type} {key : OptionKey} {choices : Choices α} {text : String}
    {value : α} : readChoice key choices text = .ok value ↔ choices.find text = some value := by
  unfold readChoice
  cases choices.find text with
  | some found => simp
  | none => by_cases hempty : text = "" <;> simp [hempty]

namespace Given

/-- What an option with one attached value does: it sets the value, or adds a class. -/
inductive Takes (g : Given) (value : String) : OptionKey → Given → Prop
  | name : Takes g value .name { g with name := some value }
  | target {target : Target} (h : Choices.target.find value = some target) :
      Takes g value .target { g with target := some target }
  | filter {c : ResultClass} (h : Choices.resultClass.find value = some c) :
      Takes g value .filter { g with filter := g.filter ++ [c] }
  | logFormat {format : Log.Format} (h : Choices.logFormat.find value = some format) :
      Takes g value .logFormat { g with logFormat := some format }
  | completions {shell : Shell} (h : Choices.shell.find value = some shell) :
      Takes g value .completions { g with completions := some shell }
  | flag {key : OptionKey} (h : key.arity = .flag) : Takes g value key g

theorem takes_of_addOption {g next : Given} {key : OptionKey} {value : String}
    (h : g.addOption key [value] = .ok next) : g.Takes value key next := by
  cases key with
  | name =>
    obtain rfl := Except.ok.inj h
    exact .name
  | target =>
    obtain ⟨target, htarget, h⟩ := bind_eq_ok_iff.1 h
    obtain rfl := Except.ok.inj h
    exact .target (readChoice_eq_ok_iff.1 htarget)
  | filter =>
    obtain ⟨classes, hclasses, h⟩ := bind_eq_ok_iff.1 h
    obtain rfl := Except.ok.inj h
    obtain ⟨c, rest, hc, hrest, rfl⟩ := List.forall₂_cons_left_iff.1 (mapM_eq_ok_iff.1 hclasses)
    obtain rfl := List.forall₂_nil_left_iff.1 hrest
    exact .filter (readChoice_eq_ok_iff.1 hc)
  | logFormat =>
    obtain ⟨format, hformat, h⟩ := bind_eq_ok_iff.1 h
    obtain rfl := Except.ok.inj h
    exact .logFormat (readChoice_eq_ok_iff.1 hformat)
  | completions =>
    obtain ⟨shell, hshell, h⟩ := bind_eq_ok_iff.1 h
    obtain rfl := Except.ok.inj h
    exact .completions (readChoice_eq_ok_iff.1 hshell)
  | scope | debug | manPage | help | version =>
    obtain rfl := Except.ok.inj h
    exact .flag rfl

/-- What a token gives by itself, if it leaves no option open. -/
theorem of_ofTokens_single {text : String} {g : Given} (hclosed : Token.IsClosed text)
    (h : ofTokens [text] = .ok g) :
    (∃ key isLong, Token.ofText text = .flag key isLong ∧ g = nothing.addFlag key) ∨
      (∃ key value, Token.ofText text = .attached key value ∧
        nothing.addOption key [value] = .ok g) ∨
      Token.ofText text = .word ∧ g = onlyFiles [text] := by
  unfold ofTokens Reader.tokens at h
  rw [if_neg hclosed.ne_dashes, bind_assoc, bind_eq_ok_iff] at h
  obtain ⟨next, hnext, h⟩ := h
  rw [Reader.token_eq_act] at hnext
  cases htoken : Token.ofText text with
  | flag key isLong =>
    rw [htoken] at hnext
    obtain ⟨given, hgiven, rfl⟩ := Reader.exists_of_flag _ hnext
    obtain rfl := Except.ok.inj hgiven
    exact .inl ⟨key, isLong, rfl, (Except.ok.inj h).symm⟩
  | attached key value =>
    rw [htoken] at hnext
    obtain ⟨given, more, hgiven, hmore, rfl⟩ := Reader.exists_of_attached _ hnext
    obtain rfl := Except.ok.inj hgiven
    obtain rfl := Except.ok.inj h
    exact .inr (.inl ⟨key, value, rfl, hmore⟩)
  | opened key => exact absurd htoken (hclosed.not_opened key)
  | word =>
    rw [htoken] at hnext
    obtain rfl := Except.ok.inj hnext
    obtain ⟨-, rfl⟩ := of_addFiles_eq_ok h
    exact .inr (.inr ⟨rfl, nothing_append _⟩)
  | fault failure =>
    rw [htoken] at hnext
    cases hnext

/-- Induction over tokens that leave no option open. -/
theorem ofTokens_induction {P : List String → Given → Prop} (nil : P [] nothing)
    (cons : ∀ text texts first rest, Token.IsClosed text → ofTokens [text] = .ok first →
      P texts rest → P (text :: texts) (first ++ rest))
    {texts : List String} (hclosed : ∀ text ∈ texts, Token.IsClosed text) {g : Given}
    (h : ofTokens texts = .ok g) : P texts g := by
  induction texts generalizing g with
  | nil =>
    obtain rfl := Except.ok.inj h
    exact nil
  | cons text texts ih =>
    rw [List.forall_mem_cons] at hclosed
    rw [← List.singleton_append, ofTokens_append (List.forall_mem_singleton.2 hclosed.1),
      bind_eq_ok_iff] at h
    obtain ⟨first, hfirst, h⟩ := h
    obtain ⟨rest, hrest, h⟩ := bind_eq_ok_iff.1 h
    obtain rfl := Except.ok.inj h
    exact cons text texts first rest hclosed.1 hfirst (ih hclosed.2 hrest)

end Given

theorem OptionKey.ne_of_arity {key other : OptionKey} (hkey : key.arity = .flag)
    (hother : other.arity ≠ .flag) : key ≠ other := by
  rintro rfl
  exact hother hkey

/-- An option that takes one value. A later value takes the place of an earlier one, and nothing
but the option itself sets it. -/
structure SingleOption (α : Type) where
  key : OptionKey
  /-- The value that a text spells. -/
  read : String → Option α
  /-- The value among what is given. -/
  given : Given → Option α
  has_iff : ∀ g, g.Has key ↔ given g ≠ none
  given_onlyFiles : ∀ files, given (.onlyFiles files) = none
  given_append : ∀ g later, given (g ++ later) = (given later).or (given g)
  given_addFlag : ∀ g flag, given (Given.addFlag g flag) = given g
  given_of_takes : ∀ g other value next, Given.Takes g value other next →
    if other = key then ∃ v, read value = some v ∧ given next = some v else given next = given g

namespace SingleOption

def name : SingleOption String where
  key := .name
  read := some
  given := Given.name
  has_iff _ := Iff.rfl
  given_onlyFiles _ := rfl
  given_append _ _ := rfl
  given_addFlag _ flag := by cases flag <;> rfl
  given_of_takes _ _ _ _ h := by
    cases h with
    | name => exact ⟨_, rfl, rfl⟩
    | flag hflag => rw [if_neg (OptionKey.ne_of_arity hflag (by decide))]
    | _ => rfl

def target : SingleOption Target where
  key := .target
  read := Choices.target.find
  given := Given.target
  has_iff _ := Iff.rfl
  given_onlyFiles _ := rfl
  given_append _ _ := rfl
  given_addFlag _ flag := by cases flag <;> rfl
  given_of_takes _ _ _ _ h := by
    cases h with
    | target h => exact ⟨_, h, rfl⟩
    | flag hflag => rw [if_neg (OptionKey.ne_of_arity hflag (by decide))]
    | _ => rfl

def logFormat : SingleOption Log.Format where
  key := .logFormat
  read := Choices.logFormat.find
  given := Given.logFormat
  has_iff _ := Iff.rfl
  given_onlyFiles _ := rfl
  given_append _ _ := rfl
  given_addFlag _ flag := by cases flag <;> rfl
  given_of_takes _ _ _ _ h := by
    cases h with
    | logFormat h => exact ⟨_, h, rfl⟩
    | flag hflag => rw [if_neg (OptionKey.ne_of_arity hflag (by decide))]
    | _ => rfl

def completions : SingleOption Shell where
  key := .completions
  read := Choices.shell.find
  given := Given.completions
  has_iff _ := Iff.rfl
  given_onlyFiles _ := rfl
  given_append _ _ := rfl
  given_addFlag _ flag := by cases flag <;> rfl
  given_of_takes _ _ _ _ h := by
    cases h with
    | completions h => exact ⟨_, h, rfl⟩
    | flag hflag => rw [if_neg (OptionKey.ne_of_arity hflag (by decide))]
    | _ => rfl

variable {α : Type} (o : SingleOption α)

/-- Whether a value is the one that the last attached text spells. -/
def HasValue (texts : List String) : Option α → Prop
  | some value => ∃ text, (attachedValues texts o.key).getLast? = some text ∧
      o.read text = some value
  | none => attachedValues texts o.key = []

/-- A text in front changes the value only if there is none behind it. -/
theorem hasValue_cons {text : String} (hdashes : text ≠ "--") {texts : List String}
    {first rest : Option α} (hrest : o.HasValue texts rest)
    (hfirst : match (Token.ofText text).value? o.key with
      | some value => ∃ v, o.read value = some v ∧ first = some v
      | none => first = none) :
    o.HasValue (text :: texts) (rest.or first) := by
  cases rest with
  | some value =>
    obtain ⟨last, hlast, hread⟩ := hrest
    refine ⟨last, ?_, hread⟩
    rw [attachedValues_cons hdashes, List.getLast?_append, hlast, Option.some_or]
  | none =>
    have hnone : attachedValues texts o.key = [] := hrest
    rw [Option.none_or]
    cases hvalue : (Token.ofText text).value? o.key with
    | none =>
      rw [hvalue] at hfirst
      rw [hfirst]
      simp [HasValue, attachedValues_cons hdashes, hvalue, hnone]
    | some value =>
      rw [hvalue] at hfirst
      obtain ⟨v, hread, rfl⟩ := hfirst
      exact ⟨value, by simp [attachedValues_cons hdashes, hvalue, hnone], hread⟩

/-- Tokens that leave no option open give the value that the last attached text spells. -/
theorem hasValue_of_ofTokens {texts : List String} (hclosed : ∀ text ∈ texts, Token.IsClosed text)
    {g : Given} (h : Given.ofTokens texts = .ok g) : o.HasValue texts (o.given g) := by
  refine Given.ofTokens_induction (P := fun texts g ↦ o.HasValue texts (o.given g)) ?_ ?_ hclosed h
  · have hnothing : o.given .nothing = none := o.given_onlyFiles []
    rw [hnothing]
    rfl
  · intro text texts first rest hclosed hfirst hrest
    rw [o.given_append]
    apply o.hasValue_cons hclosed.ne_dashes hrest
    rcases Given.of_ofTokens_single hclosed hfirst with
      ⟨key, isLong, htoken, rfl⟩ | ⟨key, value, htoken, hadd⟩ | ⟨htoken, rfl⟩
    · rw [htoken]
      exact (o.given_addFlag .nothing key).trans (o.given_onlyFiles [])
    · have hgiven := o.given_of_takes .nothing key value first (Given.takes_of_addOption hadd)
      by_cases hkey : key = o.key
      · simpa [htoken, Token.value?, hkey] using hgiven
      · rw [if_neg hkey] at hgiven
        simpa [htoken, Token.value?, hkey] using hgiven.trans (o.given_onlyFiles [])
    · rw [htoken]
      exact o.given_onlyFiles [text]

end SingleOption

/-! ## The classes of a filter -/

/-- The classes that the texts attached to a filter spell. -/
def filterClasses (texts : List String) : List ResultClass :=
  (attachedValues texts .filter).filterMap Choices.resultClass.find

theorem Given.filter_of_addFlag (g : Given) (key : OptionKey) :
    (g.addFlag key).filter = g.filter := by
  cases key <;> rfl

/-- The filter holds the classes that are attached to its option, in their order. -/
theorem Given.filter_of_ofTokens {texts : List String}
    (hclosed : ∀ text ∈ texts, Token.IsClosed text) {g : Given} (h : ofTokens texts = .ok g) :
    g.filter = filterClasses texts := by
  refine ofTokens_induction (P := fun texts g ↦ g.filter = filterClasses texts) rfl ?_ hclosed h
  intro text texts first rest hclosed hfirst hrest
  rw [filterClasses, attachedValues_cons hclosed.ne_dashes, List.filterMap_append, filter_append,
    hrest]
  refine congrArg (· ++ filterClasses texts) ?_
  rcases of_ofTokens_single hclosed hfirst with
    ⟨key, isLong, htoken, rfl⟩ | ⟨key, value, htoken, hadd⟩ | ⟨htoken, rfl⟩
  · rw [htoken, filter_of_addFlag]
    rfl
  · rw [htoken]
    cases takes_of_addOption hadd with
    | filter hc => simp [Token.value?, hc, nothing]
    | flag hflag =>
      have hkey : key ≠ .filter := OptionKey.ne_of_arity hflag (by decide)
      simp [Token.value?, hkey, nothing]
    | _ => rfl
  · rw [htoken]
    rfl

end BusReplay.CommandLine
