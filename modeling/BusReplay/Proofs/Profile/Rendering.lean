import BusReplay.Profile.Basic
import BusReplay.Proofs.Except

/-!
# Rendering a whole record

A command is the filled header and the words of the arguments, with one space behind each of them.
There is a command exactly when every argument has a word of its own. Otherwise the first argument
that has none is to blame, and nothing is rendered.
-/

namespace BusReplay.Profile

variable {profile : Profile} {record : CallRecord} {scope : BusScope}

/-- The text of a command whose arguments have the given words. -/
def commandText (profile : Profile) (record : CallRecord) (scope : BusScope)
    (words : List String) : String :=
  profile.fillHeader record scope ++ " " ++ String.join (words.map fun word ↦ word ++ " ")

/-- Only the words of the arguments decide whether there is a command. -/
theorem render_eq_map (profile : Profile) (record : CallRecord) (scope : BusScope) :
    profile.render record scope =
      (profile.renderArguments record.arguments).map (profile.commandText record scope) := by
  have htext (words : List String) :
      String.join ((profile.fillHeader record scope :: words).map fun word ↦ word ++ " ") =
        profile.commandText record scope words := by
    apply String.toList_injective
    simp [commandText, String.toList_join]
  unfold render
  cases profile.renderArguments record.arguments with
  | error e => rfl
  | ok words => exact congrArg Except.ok (htext words)

/-- A call is rendered exactly when every argument of it is. -/
theorem render_eq_ok_iff {command : String} :
    profile.render record scope = .ok command ↔ ∃ words,
      List.Forall₂ (fun argument word ↦ profile.renderArgument argument = .ok word)
        record.arguments words ∧
      command = profile.commandText record scope words := by
  rw [render_eq_map, map_eq_ok_iff]
  simp only [renderArguments, mapM_eq_ok_iff, eq_comm (b := command)]

theorem exists_render_eq_ok_iff :
    (∃ command, profile.render record scope = .ok command) ↔
      ∀ argument ∈ record.arguments, ∃ word, profile.renderArgument argument = .ok word := by
  rw [← exists_mapM_eq_ok_iff]
  simp only [render_eq_map, map_eq_ok_iff, renderArguments]
  constructor
  · intro ⟨_, words, hwords, _⟩
    exact ⟨words, hwords⟩
  · intro ⟨words, hwords⟩
    exact ⟨_, words, hwords, rfl⟩

/-- Where the text of every argument comes from a word of some kind, the texts of all arguments come
from a list of such words. -/
theorem exists_forall₂_of_renderArgument {α β : Type} {R : Argument → α → Prop} {f : α → β}
    {g : String → β} {arguments : List Argument} {texts : List String}
    (hword : ∀ argument text, profile.renderArgument argument = .ok text →
      ∃ word, R argument word ∧ g text = f word)
    (h : List.Forall₂ (fun argument text ↦ profile.renderArgument argument = .ok text)
      arguments texts) :
    ∃ words, List.Forall₂ R arguments words ∧ texts.map g = words.map f := by
  induction h with
  | nil => exact ⟨[], .nil, rfl⟩
  | cons hargument _ ih =>
    obtain ⟨word, hfirst, htext⟩ := hword _ _ hargument
    obtain ⟨words, hwords, htexts⟩ := ih
    exact ⟨word :: words, .cons hfirst hwords, congrArg₂ List.cons htext htexts⟩

/-- A record is rejected for its first argument that cannot be rendered. -/
theorem render_eq_error_iff {e : FormatError} :
    profile.render record scope = .error e ↔ ∃ before argument after,
      record.arguments = before ++ argument :: after ∧
      (∀ earlier ∈ before, ∃ word, profile.renderArgument earlier = .ok word) ∧
      profile.renderArgument argument = .error e := by
  rw [render_eq_map, map_eq_error_iff]
  exact mapM_eq_error_iff

/-- An argument that cannot be rendered is blamed for one of three reasons, and only the first of
them is a matter of its type. -/
theorem renderArgument_eq_error {argument : Argument} {e : FormatError}
    (h : profile.renderArgument argument = .error e) :
    (profile.rule? argument.tag = none ∧ e = .unsupportedType argument.tag profile.tool) ∨
      e = .unsafeLiteral argument.tag argument.value ∨ e = .invalidHex argument.tag := by
  unfold renderArgument at h
  split at h
  · next rule hrule =>
    have htag : rule.tag = argument.tag := by simpa using List.find?_some hrule
    unfold ArgumentRule.render ArgumentRule.renderValue at h
    rw [bind_eq_error_iff, htag] at h
    rcases h with h | ⟨body, -, h⟩
    · split at h
      · split at h
        · simp at h
        · exact .inr (.inl (Except.error.inj h).symm)
      · split at h
        · simp at h
        · exact .inr (.inr (Except.error.inj h).symm)
    · simp [pure, Except.pure] at h
  · next hrule => exact .inl ⟨hrule, (Except.error.inj h).symm⟩

end BusReplay.Profile
