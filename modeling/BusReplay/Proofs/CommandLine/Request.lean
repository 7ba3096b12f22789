import BusReplay.Proofs.CommandLine.Precedence
import Mathlib.Data.List.TakeDrop

/-!
# Writing a command line for a run

Whatever a run can be asked for can be written as one token for each setting, with its value
attached, and the files behind two dashes. The tokens can stand in any order, as long as those of
the filter keep theirs, and are read back as the same settings, whatever the texts in them are.
-/

namespace BusReplay.CommandLine

namespace Token

/-- Behind the first equals sign everything is the value. -/
theorem ofText_attached {spelling : String} {key : OptionKey}
    (hspelling : spelling.toList = '-' :: '-' :: (key.long.toList ++ ['=']))
    (hkey : key.arity ≠ .flag) (value : String) :
    ofText (spelling ++ value) = attached key value := by
  have htext : (spelling ++ value).toList =
      '-' :: '-' :: (key.long.toList ++ '=' :: value.toList) := by
    simp [hspelling]
  have hspan : (key.long.toList ++ '=' :: value.toList).span (· ≠ '=') =
      (key.long.toList, '=' :: value.toList) := by
    have hfree : ∀ c ∈ key.long.toList, decide (c ≠ '=') = true := by
      intro c hc
      simpa using ne_of_mem_of_not_mem hc key.equals_notMem_long
    rw [List.span_eq_takeWhile_dropWhile, List.takeWhile_append_of_pos hfree,
      List.dropWhile_append_of_pos hfree]
    simp
  unfold ofText
  simp only [htext, hspan, String.ofList_toList, ofLong, key.ofLong?_long]

end Token

/-- A setting on a command line. -/
inductive Setting
  | scope (scope : BusScope)
  | target (target : Target)
  | name (text : String)
  | filter (c : ResultClass)
  | logFormat (format : Log.Format)
  | debug
  deriving DecidableEq, Repr

namespace Setting

def token : Setting → String
  | .scope .system => "--system"
  | .scope .session => "--session"
  | .target t => "--target=" ++ t.tool
  | .name text => "--name=" ++ text
  | .filter c => "--filter=" ++ c.label
  | .logFormat format => "--log-format=" ++ format.optionName
  | .debug => "--debug"

/-- What the token of a setting is to the reader. -/
def read : Setting → Token
  | .scope s => .flag (.scope s) true
  | .target t => .attached .target t.tool
  | .name text => .attached .name text
  | .filter c => .attached .filter c.label
  | .logFormat format => .attached .logFormat format.optionName
  | .debug => .flag .debug true

def given : Setting → Given
  | .scope s => { Given.nothing with scopes := [s] }
  | .target t => { Given.nothing with target := some t }
  | .name text => { Given.nothing with name := some text }
  | .filter c => { Given.nothing with filter := [c] }
  | .logFormat format => { Given.nothing with logFormat := some format }
  | .debug => { Given.nothing with debug := true }

theorem ofText_token (setting : Setting) : Token.ofText setting.token = setting.read := by
  cases setting with
  | scope s => cases s <;> rfl
  | target t => exact @Token.ofText_attached "--target=" .target (by decide) (by decide) _
  | name text => exact @Token.ofText_attached "--name=" .name (by decide) (by decide) _
  | filter c => exact @Token.ofText_attached "--filter=" .filter (by decide) (by decide) _
  | logFormat format =>
    exact @Token.ofText_attached "--log-format=" .logFormat (by decide) (by decide) _
  | debug => rfl

theorem isClosed_token (setting : Setting) : Token.IsClosed setting.token where
  ne_dashes h := by
    have hread := setting.ofText_token
    rw [h] at hread
    cases setting <;> cases hread
  ne_empty h := by
    have hread := setting.ofText_token
    rw [h] at hread
    cases setting <;> cases hread
  not_opened key h := by
    rw [ofText_token] at h
    cases setting <;> cases h

/-- The token of a setting gives what the setting says. -/
theorem ofTokens_token (setting : Setting) :
    Given.ofTokens [setting.token] = .ok setting.given := by
  unfold Given.ofTokens Reader.tokens
  rw [if_neg setting.isClosed_token.ne_dashes, Reader.token_eq_act, ofText_token]
  cases setting with
  | scope s => cases s <;> rfl
  | target t => cases t <;> rfl
  | name text => rfl
  | filter c => cases c <;> rfl
  | logFormat format => cases format <;> rfl
  | debug => rfl

def givenBy (settings : List Setting) : Given :=
  settings.foldr (fun setting g ↦ setting.given ++ g) .nothing

theorem givenBy_cons (setting : Setting) (settings : List Setting) :
    givenBy (setting :: settings) = setting.given ++ givenBy settings := rfl

/-- Tokens of settings give what the settings say, one behind the other. -/
theorem ofTokens_map_token (settings : List Setting) :
    Given.ofTokens (settings.map token) = .ok (givenBy settings) := by
  induction settings with
  | nil => rfl
  | cons setting settings ih =>
    rw [List.map_cons, ← List.singleton_append,
      Given.ofTokens_append (List.forall_mem_singleton.2 setting.isClosed_token), ofTokens_token,
      ih]
    rfl

/-- Behind two dashes any text is a file. -/
theorem ofTokens_append_files (settings : List Setting) {files : List String}
    (hfiles : "" ∉ files) :
    Given.ofTokens (settings.map token ++ "--" :: files) =
      .ok (givenBy settings ++ .onlyFiles files) := by
  have hclosed : ∀ text ∈ settings.map token, Token.IsClosed text := by
    intro text htext
    obtain ⟨setting, -, rfl⟩ := List.mem_map.1 htext
    exact setting.isClosed_token
  rw [Given.ofTokens_append hclosed, ofTokens_map_token, Given.ofTokens_dashes,
    Given.addFiles_eq_ok _ hfiles, Given.nothing_append]
  rfl

/-! ## Settings among others -/

def scope? : Setting → Option BusScope
  | .scope s => some s
  | _ => none

/-- The class that a setting adds to the filter. -/
def class? : Setting → Option ResultClass
  | .filter c => some c
  | _ => none

/-- Of several settings of one option the last one counts. -/
theorem given_givenBy {α : Type} (o : SingleOption α) (settings : List Setting) :
    o.given (givenBy settings) =
      (settings.filterMap fun setting ↦ o.given setting.given).getLast? := by
  induction settings with
  | nil => exact o.given_onlyFiles []
  | cons setting settings ih =>
    rw [givenBy_cons, o.given_append, ih, List.filterMap_cons]
    cases hsetting : o.given setting.given with
    | none => rw [Option.or_none]
    | some value =>
      rw [List.getLast?_cons]
      cases (settings.filterMap fun setting ↦ o.given setting.given).getLast? <;> rfl

theorem scopes_givenBy {settings : List Setting} (h : (settings.filterMap scope?).Nodup) :
    (givenBy settings).scopes = settings.filterMap scope? := by
  induction settings with
  | nil => rfl
  | cons setting settings ih =>
    rw [givenBy_cons, Given.scopes_append]
    cases setting with
    | scope s =>
      have hcons : (Setting.scope s :: settings).filterMap scope? =
          s :: settings.filterMap scope? := rfl
      rw [hcons, List.nodup_cons] at h
      rw [hcons, ih h.2]
      exact congrArg (· ++ settings.filterMap scope?)
        (List.filter_cons_of_pos (decide_eq_true h.1))
    | _ => exact ih h

theorem filter_givenBy (settings : List Setting) :
    (givenBy settings).filter = settings.filterMap class? := by
  induction settings with
  | nil => rfl
  | cons setting settings ih =>
    rw [givenBy_cons, Given.filter_append, ih]
    cases setting <;> rfl

theorem debug_givenBy (settings : List Setting) :
    (givenBy settings).debug = settings.contains .debug := by
  induction settings with
  | nil => rfl
  | cons setting settings ih =>
    rw [givenBy_cons, Given.debug_append, ih]
    cases setting <;> simp [given, Given.nothing]

/-- What no setting gives is not given. -/
theorem field_givenBy {α : Type} {field : Given → α}
    (happend : ∀ g later, field g = field .nothing → field later = field .nothing →
      field (g ++ later) = field .nothing)
    (hsetting : ∀ setting : Setting, field setting.given = field .nothing)
    (settings : List Setting) : field (givenBy settings) = field .nothing := by
  induction settings with
  | nil => rfl
  | cons setting settings ih => exact happend _ _ (hsetting setting) ih

end Setting

/-- What a run can be asked for. -/
structure Request where
  scope : BusScope
  target : Target
  name : Option String
  filter : List ResultClass
  filter_ne_nil : filter ≠ []
  logFormat : Option Log.Format
  debug : Bool
  files : List String
  files_ne_nil : files ≠ []
  empty_notMem_files : "" ∉ files

namespace Request

variable (r : Request)

/-- One setting for each part of a request, except for the files. -/
def settings : List Setting :=
  .scope r.scope :: .target r.target :: ((r.name.map .name).toList ++ (r.filter.map .filter ++
    ((r.logFormat.map .logFormat).toList ++ if r.debug then [.debug] else [])))

def arguments : Arguments where
  system := r.scope == .system
  session := r.scope == .session
  name := r.name
  target := r.target
  filter := r.filter
  files := r.files
  logFormat := r.logFormat
  debug := r.debug
  completions := none
  manPage := false

/-- The order of settings does not matter where there is one at most. -/
theorem filterMap_eq_of_perm {α : Type} {f : Setting → Option α} {settings others : List Setting}
    (hperm : settings.Perm others) {value : Option α} (h : others.filterMap f = value.toList) :
    settings.filterMap f = value.toList := by
  have hvalues := h ▸ hperm.filterMap f
  cases value with
  | none => exact List.perm_nil.1 hvalues
  | some value => exact List.perm_singleton.1 hvalues

theorem filterMap_settings {α : Type} (f : Setting → Option α) :
    r.settings.filterMap f =
      (f (.scope r.scope)).toList ++ ((f (.target r.target)).toList ++
        ((r.name.bind fun text ↦ f (.name text)).toList ++
          ((r.filter.filterMap fun c ↦ f (.filter c)) ++
            ((r.logFormat.bind fun format ↦ f (.logFormat format)).toList ++
              if r.debug then (f .debug).toList else [])))) := by
  have hcons (setting : Setting) (settings : List Setting) :
      (setting :: settings).filterMap f = (f setting).toList ++ settings.filterMap f := by
    rw [List.filterMap_cons]
    cases f setting <;> rfl
  have hoption {β : Type} (value : Option β) (make : β → Setting) :
      (value.map make).toList.filterMap f = (value.bind fun b ↦ f (make b)).toList := by
    cases value with
    | none => rfl
    | some b => exact (hcons (make b) []).trans (List.append_nil _)
  rw [settings, hcons, hcons, List.filterMap_append, List.filterMap_append, List.filterMap_append,
    hoption, hoption, List.filterMap_map]
  cases r.debug with
  | false => rfl
  | true => simp [hcons]

/-- A request that sets an option once sets it in any order of the settings. -/
theorem given_of_perm {α : Type} (o : SingleOption α) {settings : List Setting}
    (hperm : settings.Perm r.settings) {value : Option α}
    (h : (r.settings.filterMap fun setting ↦ o.given setting.given) = value.toList) :
    o.given (Setting.givenBy settings) = value := by
  rw [Setting.given_givenBy, filterMap_eq_of_perm hperm h]
  cases value <;> rfl

variable {r} in
/-- What the settings of a request give in any order that keeps the classes in theirs. -/
theorem givenBy_of_perm {settings : List Setting} (hperm : settings.Perm r.settings)
    (hclasses : settings.filterMap Setting.class? = r.filter) :
    Setting.givenBy settings =
      ⟨[r.scope], r.name, some r.target, r.filter, [], r.logFormat, r.debug, none, false⟩ := by
  ext : 1
  case scopes =>
    -- There is one bus, so no later one can take its place.
    have hscope : settings.filterMap Setting.scope? = (some r.scope).toList :=
      filterMap_eq_of_perm hperm (by simp [filterMap_settings, Setting.scope?])
    rw [Setting.scopes_givenBy (by simp [hscope]), hscope, Option.toList_some]
  case name =>
    exact r.given_of_perm .name hperm
      (by simp [filterMap_settings, SingleOption.name, Setting.given, Given.nothing])
  case target =>
    exact r.given_of_perm .target hperm
      (by simp [filterMap_settings, SingleOption.target, Setting.given, Given.nothing])
  case filter => rw [Setting.filter_givenBy, hclasses]
  case files =>
    exact Setting.field_givenBy
      (fun g later hg hlater ↦ by rw [Given.files_append, hg, hlater]; rfl)
      (fun setting ↦ by cases setting <;> rfl) settings
  case logFormat =>
    exact r.given_of_perm .logFormat hperm
      (by simp [filterMap_settings, SingleOption.logFormat, Setting.given, Given.nothing])
  case debug =>
    have hmem : Setting.debug ∈ settings ↔ r.debug = true := by
      rw [hperm.mem_iff]
      simp [Request.settings]
    rw [Setting.debug_givenBy, Bool.eq_iff_iff, List.contains_iff_mem, hmem]
  case completions =>
    exact Setting.field_givenBy
      (fun g later hg hlater ↦ by rw [Given.completions_append, hg, hlater]; rfl)
      (fun setting ↦ by cases setting <;> rfl) settings
  case manPage =>
    exact Setting.field_givenBy
      (fun g later hg hlater ↦ by rw [Given.manPage_append, hg, hlater]; rfl)
      (fun setting ↦ by cases setting <;> rfl) settings

/-- A command line made of the settings of a request and its files is accepted and asks for exactly
that, whatever the program is called by. -/
theorem parse_token_append_files (r : Request) {settings : List Setting}
    (hperm : settings.Perm r.settings) (hclasses : settings.filterMap Setting.class? = r.filter)
    (program : String) :
    parse (program :: (settings.map Setting.token ++ "--" :: r.files)) = .ok r.arguments ∧
      r.arguments.busScope = r.scope := by
  have hgiven := givenBy_of_perm hperm hclasses
  refine ⟨?_, ?_⟩
  · have hscopes : (Setting.givenBy settings).scopes = [r.scope] := by rw [hgiven]
    have hcheck := Given.check_append_onlyFiles hscopes r.files_ne_nil
    unfold parse readTokens
    rw [List.drop_one, List.tail_cons, Setting.ofTokens_append_files settings r.empty_notMem_files]
    refine hcheck.trans (congrArg Except.ok ?_)
    rw [hgiven]
    simp only [Given.complete, arguments, Given.append_onlyFiles, Option.getD_some, List.nil_append,
      List.isEmpty_iff, r.filter_ne_nil, if_false]
    cases r.scope <;> rfl
  · rw [Arguments.busScope, arguments]
    cases r.scope <;> rfl

/-- Settings in no order, a name that looks like an option, and files that look like tokens. -/
theorem parse_token_append_files_dashed :
    ∃ (r : Request) (settings : List Setting), settings.Perm r.settings ∧
      settings.filterMap Setting.class? = r.filter ∧
      settings.map Setting.token = ["--debug", "--filter=Success", "--name=-f=", "--filter=Crash",
        "--session", "--log-format=json", "--filter=Success", "--target=gdbus"] ∧
      r.files = ["-", "--", "--name"] ∧
      parse ("dbus-reprogen" :: (settings.map Setting.token ++ "--" :: r.files)) = .ok
        ⟨false, true, some "-f=", .gdbus, [.success, .crash, .success], ["-", "--", "--name"],
          some .json, true, none, false⟩ ∧
      r.arguments.busScope = .session := by
  let r : Request := ⟨.session, .gdbus, some "-f=", [.success, .crash, .success], by decide,
    some .json, true, ["-", "--", "--name"], by decide, by decide⟩
  let settings : List Setting := [.debug, .filter .success, .name "-f=", .filter .crash,
    .scope .session, .logFormat .json, .filter .success, .target .gdbus]
  have hperm : settings.Perm r.settings := by decide
  obtain ⟨hparse, hscope⟩ := parse_token_append_files r hperm rfl "dbus-reprogen"
  exact ⟨r, settings, hperm, rfl, by decide, rfl, hparse, hscope⟩

end Request

end BusReplay.CommandLine
