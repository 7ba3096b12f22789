import BusReplay.Proofs.Profile.Words

/-!
# Calls determined by their commands

A command can be read back. Its words are told apart by the spaces outside quotes, the method
follows the last dot of its word, and a quote in an argument tells that its value was encoded. The
labels of `dbus-send` tell the type tags as well; `gdbus` writes no labels, so there a command
determines the arguments only up to tags that are rendered in the same way.
-/

namespace BusReplay

open Shell

/-! ## Arguments -/

namespace Target

variable {target : Target} {r s : ArgumentRule} {value other : String}

/-- Two labels of one tool end at the same place of a word. -/
theorem label_cancel (hr : r ∈ target.profile.rules) (hs : s ∈ target.profile.rules) {xs ys : Word}
    (h : Word.ofText r.label.toList ++ xs = Word.ofText s.label.toList ++ ys) :
    r.label = s.label ∧ xs = ys := by
  cases target with
  | dbusSend =>
    have hcolon : ∀ rule ∈ dbusSend.profile.rules,
        rule.label.toList = rule.label.toList.dropLast ++ [':'] ∧
          ':' ∉ rule.label.toList.dropLast := by
      decide
    have hfree {cs : List Char} (hcs : ':' ∉ cs) : Piece.bare ':' ∉ Word.ofText cs := by
      simpa [Word.ofText] using hcs
    have hword {cs : List Char} {word : Word} :
        Word.ofText (cs ++ [':']) ++ word = Word.ofText cs ++ Piece.bare ':' :: word := by
      simp [Word.ofText]
    obtain ⟨hr, hrfree⟩ := hcolon r hr
    obtain ⟨hs, hsfree⟩ := hcolon s hs
    -- Both words hold a first bare colon, and what stands before it is the name of the type.
    rw [hr, hs, hword, hword] at h
    obtain ⟨hfront, hrest⟩ := Text.append_cons_cancel (hfree hrfree) (hfree hsfree) h
    refine ⟨String.toList_injective ?_, hrest⟩
    rw [hr, hs, Word.ofText_injective hfront]
  | gdbus =>
    have hempty : ∀ rule ∈ gdbus.profile.rules, rule.label = "" := by decide
    rw [hempty r hr, hempty s hs] at h
    exact ⟨by rw [hempty r hr, hempty s hs], List.append_cancel_left h⟩

/-- A word tells its label, its value and how the value was rendered. -/
theorem word_cancel (hr : r ∈ target.profile.rules) (hs : s ∈ target.profile.rules)
    (h : r.word value = s.word other) :
    r.label = s.label ∧ r.rendering = s.rendering ∧ value = other := by
  obtain ⟨hlabel, hpieces⟩ := label_cancel hr hs h
  obtain ⟨hrendering, hvalue⟩ := Rendering.pieces_injective hpieces
  exact ⟨hlabel, hrendering, String.toList_injective hvalue⟩

end Target

namespace Profile

/-- Arguments of one value that a profile renders in the same way. -/
def Alike (profile : Profile) (a b : Argument) : Prop :=
  a.value = b.value ∧ ∃ r s, profile.rule? a.tag = some r ∧ profile.rule? b.tag = some s ∧
    r.rendering = s.rendering

variable {target : Target} {a b : Argument} {word : Word}

theorem Writes.alike (ha : target.profile.Writes a word) (hb : target.profile.Writes b word) :
    target.profile.Alike a b := by
  obtain ⟨r, hr, -, hword⟩ := ha
  obtain ⟨s, hs, -, hother⟩ := hb
  obtain ⟨-, hrendering, hvalue⟩ := Target.word_cancel (List.mem_of_find?_eq_some hr)
    (List.mem_of_find?_eq_some hs) (hword.symm.trans hother)
  exact ⟨hvalue, r, s, hr, hs, hrendering⟩

/-- No two rules of `dbus-send` have the same label. -/
theorem Writes.eq (ha : dbusSend.Writes a word) (hb : dbusSend.Writes b word) : a = b := by
  have hlabels : ∀ r ∈ dbusSend.rules, ∀ s ∈ dbusSend.rules, r.label = s.label → r.tag = s.tag := by
    decide
  have htag {argument : Argument} {rule : ArgumentRule}
      (hrule : dbusSend.rule? argument.tag = some rule) : rule.tag = argument.tag := by
    simpa using List.find?_some hrule
  obtain ⟨r, hr, -, hword⟩ := ha
  obtain ⟨s, hs, -, hother⟩ := hb
  have hrmem : r ∈ dbusSend.rules := List.mem_of_find?_eq_some hr
  have hsmem : s ∈ dbusSend.rules := List.mem_of_find?_eq_some hs
  obtain ⟨hlabel, -, hvalue⟩ :=
    @Target.word_cancel .dbusSend r s _ _ hrmem hsmem (hword.symm.trans hother)
  have htags : a.tag = b.tag := by
    rw [← htag hr, ← htag hs, hlabels r hrmem s hsmem hlabel]
  cases a
  cases b
  exact congrArg₂ Argument.mk htags hvalue

end Profile

/-! ## Headers -/

namespace Target

variable {target : Target} {s₁ s₂ : BusScope} {r₁ r₂ : CallRecord}

theorem length_headerWords (target : Target) (r₁ r₂ : CallRecord) (s₁ s₂ : BusScope) :
    (target.headerWords r₁ s₁).length = (target.headerWords r₂ s₂).length := by
  cases target <;> rfl

/-- The method is what follows the last dot. -/
theorem member_injective (h₁ : r₁.IsNamed) (h₂ : r₂.IsNamed)
    (h : r₁.interface ++ "." ++ r₁.method = r₂.interface ++ "." ++ r₂.method) :
    r₁.interface = r₂.interface ∧ r₁.method = r₂.method := by
  have hlast {record : CallRecord} (hnamed : record.IsNamed) :
      Text.IsLastField '.' (record.interface ++ "." ++ record.method).toList
        record.method.toList := by
    refine ⟨hnamed.dot_notMem_method, .inr ⟨record.interface.toList, ?_⟩⟩
    simp
  have hmethod : r₁.method = r₂.method :=
    String.toList_injective ((hlast h₁).unique (h ▸ hlast h₂))
  rw [hmethod, String.append_left_inj, String.append_left_inj] at h
  exact ⟨h, hmethod⟩

/-- The words of a header tell the names in it. -/
theorem headerWords_injective (h₁ : r₁.IsNamed) (h₂ : r₂.IsNamed)
    (h : target.headerWords r₁ s₁ = target.headerWords r₂ s₂) :
    s₁ = s₂ ∧ r₁.busName = r₂.busName ∧ r₁.objectPath = r₂.objectPath ∧
      r₁.interface = r₂.interface ∧ r₁.method = r₂.method := by
  have hscope : s₁.name = s₂.name → s₁ = s₂ := by
    cases s₁ <;> cases s₂ <;> decide
  cases target with
  | dbusSend =>
    simp only [headerWords, List.cons.injEq, String.append_right_inj, true_and, and_true] at h
    obtain ⟨hname, hbus, hpath, hmember⟩ := h
    exact ⟨hscope hname, hbus, hpath, member_injective h₁ h₂ hmember⟩
  | gdbus =>
    simp only [headerWords, List.cons.injEq, String.append_right_inj, true_and, and_true] at h
    obtain ⟨hname, hbus, hpath, hmember⟩ := h
    exact ⟨hscope hname, hbus, hpath, member_injective h₁ h₂ hmember⟩

theorem headerCommand_injective (h₁ : r₁.IsNamed) (h₂ : r₂.IsNamed)
    (h : target.headerCommand r₁ s₁ = target.headerCommand r₂ s₂) :
    s₁ = s₂ ∧ r₁.busName = r₂.busName ∧ r₁.objectPath = r₂.objectPath ∧
      r₁.interface = r₂.interface ∧ r₁.method = r₂.method := by
  have hword : Function.Injective fun word : String ↦ Word.ofText word.toList :=
    Word.ofText_injective.comp fun _ _ ↦ String.toList_injective
  exact headerWords_injective h₁ h₂ (List.map_injective_iff.2 hword h)

end Target

/-! ## Commands -/

/-- Elements that are related to the same list are related to each other, place by place. -/
theorem forall₂_of_common {α β : Type} {R : α → β → Prop} {S : α → α → Prop} {xs ys : List α}
    {zs : List β} (hxs : List.Forall₂ R xs zs) (hys : List.Forall₂ R ys zs)
    (hRS : ∀ x y z, R x z → R y z → S x y) : List.Forall₂ S xs ys := by
  induction hxs generalizing ys with
  | nil =>
    rw [List.forall₂_nil_right_iff] at hys
    rw [hys]
    exact .nil
  | cons hx _ ih =>
    rw [List.forall₂_cons_right_iff] at hys
    obtain ⟨y, rest, hy, hrest, rfl⟩ := hys
    exact .cons (hRS _ _ _ hx hy) (ih hrest)

namespace Target

/-- A command tells what it was made of: the bus, the names of the call, and the values of its
arguments in their order. With `dbus-send` it tells the type tags of the arguments as well. -/
theorem render_determines {target : Target} {s₁ s₂ : BusScope} {r₁ r₂ : CallRecord}
    {line₁ line₂ name₁ name₂ command : String}
    (hname₁ : validateBusName name₁ = .ok ()) (hname₂ : validateBusName name₂ = .ok ())
    (hparse₁ : CallRecord.parse line₁ name₁ = .ok r₁)
    (hparse₂ : CallRecord.parse line₂ name₂ = .ok r₂)
    (hrender₁ : target.profile.render r₁ s₁ = .ok command)
    (hrender₂ : target.profile.render r₂ s₂ = .ok command) :
    (s₁ = s₂ ∧ r₁.busName = r₂.busName ∧ r₁.objectPath = r₂.objectPath ∧
      r₁.interface = r₂.interface ∧ r₁.method = r₂.method) ∧
      List.Forall₂ target.profile.Alike r₁.arguments r₂.arguments ∧
      (target = .dbusSend → r₁.arguments = r₂.arguments) := by
  have h₁ : r₁.IsNamed := CallRecord.isNamed_of_parse hname₁ hparse₁
  have h₂ : r₂.IsNamed := CallRecord.isNamed_of_parse hname₂ hparse₂
  obtain ⟨words₁, hwords₁, hinert₁, hcommand₁⟩ := exists_command_of_render h₁ hrender₁
  obtain ⟨words₂, hwords₂, hinert₂, hcommand₂⟩ := exists_command_of_render h₂ hrender₂
  have hwords : target.headerCommand r₁ s₁ ++ words₁ = target.headerCommand r₂ s₂ ++ words₂ :=
    commandChars_injective hinert₁ hinert₂ (hcommand₁.symm.trans hcommand₂)
  have hlength : (target.headerCommand r₁ s₁).length = (target.headerCommand r₂ s₂).length := by
    rw [headerCommand, headerCommand, List.length_map, List.length_map]
    exact length_headerWords target r₁ r₂ s₁ s₂
  obtain ⟨hheader, rfl⟩ := List.append_inj hwords hlength
  refine ⟨headerCommand_injective h₁ h₂ hheader, ?_, ?_⟩
  · exact forall₂_of_common hwords₁ hwords₂ fun _ _ _ ↦ Profile.Writes.alike
  · rintro rfl
    rw [← List.forall₂_eq_eq_eq]
    exact forall₂_of_common hwords₁ hwords₂ fun _ _ _ ↦ Profile.Writes.eq

/-- A broken argument and another label leave no trace in a command. -/
theorem render_determines_broken :
    ∃ r₁ r₂ command, CallRecord.parse " a.b;/p;M;s;6869;y;3;Crash\n" "a.b" = .ok r₁ ∧
      CallRecord.parse "a.b;/p;M;/;;s;6869;y;3;Success" "a.b" = .ok r₂ ∧ r₁ ≠ r₂ ∧
      dbusSend.profile.render r₁ .system = .ok command ∧
      dbusSend.profile.render r₂ .system = .ok command ∧ r₁.arguments = r₂.arguments := by
  have hname : validateBusName "a.b" = .ok () := by decide +kernel
  have hparse₁ : CallRecord.parse " a.b;/p;M;s;6869;y;3;Crash\n" "a.b" =
      .ok ⟨"a.b", "a.b", "/p", "M", [⟨'s', "6869"⟩, ⟨'y', "3"⟩], "Crash"⟩ := by
    decide +kernel
  have hparse₂ : CallRecord.parse "a.b;/p;M;/;;s;6869;y;3;Success" "a.b" =
      .ok ⟨"a.b", "a.b", "/p", "M", [⟨'s', "6869"⟩, ⟨'y', "3"⟩], "Success"⟩ := by
    decide +kernel
  have hrender₁ : dbusSend.profile.render
      ⟨"a.b", "a.b", "/p", "M", [⟨'s', "6869"⟩, ⟨'y', "3"⟩], "Crash"⟩ .system =
      .ok ("dbus-send --system --dest=a.b --print-reply /p a.b.M " ++
        "string:\"`echo 6869 | xxd -r -p`\" byte:3 ") := by
    decide +kernel
  have hrender₂ : dbusSend.profile.render
      ⟨"a.b", "a.b", "/p", "M", [⟨'s', "6869"⟩, ⟨'y', "3"⟩], "Success"⟩ .system =
      .ok ("dbus-send --system --dest=a.b --print-reply /p a.b.M " ++
        "string:\"`echo 6869 | xxd -r -p`\" byte:3 ") := by
    decide +kernel
  have hdetermined := render_determines hname hname hparse₁ hparse₂ hrender₁ hrender₂
  exact ⟨_, _, _, hparse₁, hparse₂, by decide, hrender₁, hrender₂, hdetermined.2.2 rfl⟩

end Target

end BusReplay
