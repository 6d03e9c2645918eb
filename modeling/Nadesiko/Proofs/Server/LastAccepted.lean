import Mathlib
import Nadesiko.Server.Basic

/-!
# The last accepted settings win

Any JSON value may be sent as settings, one after another. What comes of a value is decided by the
value alone, before the settings are looked at: it is refused for a fault, it carries a flag, or it
carries none. So the settings after any number of values are those of the last flag that was
carried, and what is refused leaves no trace in them.

The flag is looked for in one part of a value, and there it is a member or the only element of a
list. A value that is put into an object as the section is therefore read as before, unless it is
null or has a section itself.
-/

namespace Nadesiko

namespace Settings

/-! ## What a value says -/

/-- The part of a value in which the flag is looked for: the section of an object that has one, and
else the value itself. -/
def relevant : Json → Json
  | .object members => (Json.lastMember? sectionName members).getD (.object members)
  | value => value

/-- What stands where the flag is looked for, if anything does. -/
inductive Holds : Json → Option Json → Prop where
  | member (members : List (String × Json)) :
      Holds (.object members) (Json.lastMember? flagName members)
  | element (item : Json) : Holds (.array [item]) (some item)

/-- What may stand there, and the flag that it is. -/
inductive Says : Option Json → Option Bool → Prop where
  | missing : Says none none
  | null : Says (some .null) none
  | flag (b : Bool) : Says (some (.bool b)) (some b)

/-- A value is acceptable if it is null, or if nothing but a flag stands where one is looked for. -/
def Acceptable (value : Json) : Prop :=
  value = .null ∨ ∃ found flag, Holds (relevant value) found ∧ Says found flag

/-- A value carries a flag. It is then acceptable. -/
def Carries (value : Json) (b : Bool) : Prop := Holds (relevant value) (some (.bool b))

/-- Why a value is refused, if it is. -/
def refusal? (value : Json) : Option Fault :=
  match flag? value with
  | .ok _ => none
  | .error fault => some fault

/-- The flag that a value carries, if it is accepted and carries one. -/
def carried? (value : Json) : Option Bool :=
  match flag? value with
  | .ok flag => flag
  | .error _ => none

theorem readFlag_eq_ok_iff {value : Json} {flag : Option Bool} :
    readFlag value = .ok flag ↔ Says (some value) flag := by
  constructor
  · intro h
    cases value with
    | null => cases h; exact .null
    | bool b => cases h; exact .flag b
    | _ => cases h
  · intro h
    cases h <;> rfl

/-- A section is read if it has a place for the flag, and nothing but a flag stands there. -/
theorem readSection_eq_ok_iff {part : Json} {flag : Option Bool} :
    readSection part = .ok flag ↔ ∃ found, Holds part found ∧ Says found flag := by
  constructor
  · intro h
    unfold readSection at h
    split at h
    · next members =>
        refine ⟨_, .member members, ?_⟩
        split at h
        · next hnone =>
            cases h
            rw [hnone]
            exact .missing
        · next value hvalue =>
            rw [hvalue]
            exact readFlag_eq_ok_iff.mp h
    · cases h
    · next item => exact ⟨_, .element item, readFlag_eq_ok_iff.mp h⟩
    · next item others _ =>
        -- a longer list is refused even when its first element is a flag
        cases hitem : readFlag item with
        | ok _ => rw [hitem] at h; cases h
        | error _ => rw [hitem] at h; cases h
    · cases h
  · rintro ⟨found, hholds, hsays⟩
    cases hholds with
    | element item => exact readFlag_eq_ok_iff.mpr hsays
    | member members =>
        rw [readSection]
        cases hfound : Json.lastMember? flagName members with
        | none =>
            rw [hfound] at hsays
            cases hsays
            rfl
        | some value =>
            rw [hfound] at hsays
            exact readFlag_eq_ok_iff.mpr hsays

theorem flag?_of_ne_null {value : Json} (h : value ≠ .null) :
    flag? value = readSection (relevant value) := by
  cases value with
  | null => exact absurd rfl h
  | _ => rfl

/-- **What a value says is read off the place where the flag is looked for.** -/
theorem flag?_eq_ok_iff {value : Json} {flag : Option Bool} :
    flag? value = .ok flag ↔ (value = .null ∧ flag = none)
      ∨ ∃ found, Holds (relevant value) found ∧ Says found flag := by
  by_cases hnull : value = .null
  · rw [hnull]
    constructor
    · intro h
      cases h
      exact Or.inl ⟨rfl, rfl⟩
    · rintro (⟨_, rfl⟩ | ⟨found, hholds, _⟩)
      · rfl
      · cases hholds
  · rw [flag?_of_ne_null hnull, readSection_eq_ok_iff]
    exact (or_iff_right fun h => hnull h.1).symm

theorem carried?_eq_some_iff {value : Json} {b : Bool} :
    carried? value = some b ↔ Carries value b := by
  have hflag : carried? value = some b ↔ flag? value = .ok (some b) := by
    rw [carried?]
    cases flag? value <;> simp
  rw [hflag, flag?_eq_ok_iff]
  constructor
  · rintro (⟨_, hnone⟩ | ⟨found, hholds, hsays⟩)
    · cases hnone
    · cases hsays
      exact hholds
  · intro h
    exact Or.inr ⟨_, h, .flag b⟩

theorem refusal?_eq_none_iff {value : Json} : refusal? value = none ↔ Acceptable value := by
  have hflag : refusal? value = none ↔ ∃ flag, flag? value = .ok flag := by
    rw [refusal?]
    cases flag? value <;> simp
  rw [hflag]
  constructor
  · rintro ⟨flag, h⟩
    rcases flag?_eq_ok_iff.mp h with ⟨hnull, _⟩ | ⟨found, hholds, hsays⟩
    · exact Or.inl hnull
    · exact Or.inr ⟨found, flag, hholds, hsays⟩
  · rintro (hnull | ⟨found, flag, hholds, hsays⟩)
    · exact ⟨none, flag?_eq_ok_iff.mpr (Or.inl ⟨hnull, rfl⟩)⟩
    · exact ⟨flag, flag?_eq_ok_iff.mpr (Or.inr ⟨found, hholds, hsays⟩)⟩

/-- A section that has no section itself is read as it is read alone. -/
theorem flag?_object {members : List (String × Json)} {value : Json}
    (h : Json.lastMember? sectionName members = some value) (hnull : value ≠ .null)
    (hown : ∀ own, value = .object own → Json.lastMember? sectionName own = none) :
    flag? (.object members) = flag? value := by
  have hrelevant : relevant value = value := by
    cases value with
    | object own => rw [relevant, hown own rfl, Option.getD_none]
    | _ => rfl
  rw [flag?_of_ne_null hnull, hrelevant, flag?, h, Option.getD_some]

/-! ## One value -/

/-- The settings after a value, whether it is accepted or refused. -/
def after (settings : Settings) (value : Json) : Settings := (settings.apply value).2

/-- **What applying a value does is decided by what the value says.** -/
theorem apply_eq (settings : Settings) (value : Json) :
    settings.apply value = ((flag? value).map (fun _ => ()),
      ⟨(carried? value).getD settings.traceSemanticTokens⟩) := by
  unfold apply carried?
  cases flag? value with
  | error fault => rfl
  | ok flag => cases flag <;> rfl

/-- Whether a value is refused, and why, does not depend on the settings. -/
theorem apply_eq_error_iff {settings : Settings} {value : Json} {fault : Fault} :
    (settings.apply value).1 = .error fault ↔ refusal? value = some fault := by
  rw [apply_eq, refusal?]
  cases flag? value with
  | error found => simp [Except.map]
  | ok flag => simp [Except.map]

/-- Nothing is written before a value has been read, so one that is refused leaves the settings as
they are. -/
theorem after_of_error {settings : Settings} {value : Json} {fault : Fault}
    (h : (settings.apply value).1 = .error fault) : settings.after value = settings := by
  unfold after
  unfold apply at h ⊢
  cases hflag : flag? value with
  | error found => rfl
  | ok flag =>
      rw [hflag] at h
      cases flag <;> cases h

/-- A value leaves the settings as they are, unless it carries a flag. -/
theorem after_eq (settings : Settings) (value : Json) :
    settings.after value = ⟨(carried? value).getD settings.traceSemanticTokens⟩ := by
  rw [after, apply_eq]

/-! ## One value after another -/

/-- **The last flag that is carried is the one that counts.** -/
theorem foldl_after_eq (start : Settings) (values : List Json) :
    values.foldl after start
      = ⟨(values.filterMap carried?).getLast?.getD start.traceSemanticTokens⟩ := by
  induction values generalizing start with
  | nil => rfl
  | cons value later ih =>
      rw [List.foldl_cons, ih, after_eq]
      cases hcarried : carried? value with
      | none => rw [List.filterMap_cons_none hcarried, Option.getD_none]
      | some b =>
          rw [List.filterMap_cons_some hcarried, List.getLast?_cons, Option.getD_some,
            Option.getD_some]

end Settings

namespace Server

theorem applySettings_eq (server : Server) (value : Json) :
    server.applySettings value = ⟨(Settings.refusal? value).toList.map .settingsRefused,
      .ok { server with settings := server.settings.after value }⟩ := by
  rw [applySettings, Settings.after, Settings.apply_eq, Settings.refusal?]
  cases Settings.flag? value with
  | error fault => rfl
  | ok flag => rfl

/-- A server records what it refuses, and nothing changes but the settings. -/
theorem foldlM_applySettings_eq (server : Server) (values : List Json) :
    values.foldlM applySettings server
      = ⟨(values.filterMap Settings.refusal?).map .settingsRefused,
        .ok { server with settings := values.foldl Settings.after server.settings }⟩ := by
  induction values generalizing server with
  | nil => rfl
  | cons value later ih =>
      rw [List.foldlM_cons, applySettings_eq, Logged.mk_ok_bind, ih]
      cases hrefusal : Settings.refusal? value with
      | none => rw [List.filterMap_cons_none hrefusal]; rfl
      | some fault => rw [List.filterMap_cons_some hrefusal]; rfl

end Server

open Settings

/--
**The last accepted settings win, and refused ones change nothing.**

Whether a value is refused, and for which fault, is a matter of the value alone. Applied one after
another to any settings, values leave the flag of the last one that carries a flag, and the flag
they started with if none does. A server does just that with its settings, and it records the faults
and changes nothing else. And a value that is the section of an object does there what it does
alone, whatever else the object has, unless the value is null or has a section itself.
-/
theorem settings_last_accepted (start : Settings) (values : List Json) :
    (∀ (settings : Settings) (value : Json) (fault : Fault),
        (settings.apply value).1 = .error fault ↔ refusal? value = some fault)
      ∧ (∀ value, refusal? value = none ↔ Acceptable value)
      ∧ (∀ (settings : Settings) (value : Json),
        ¬ Acceptable value → settings.after value = settings)
      ∧ (∀ value b, carried? value = some b ↔ Carries value b)
      ∧ (values.foldl after start).traceSemanticTokens
        = (values.filterMap carried?).getLast?.getD start.traceSemanticTokens
      ∧ (∀ server : Server, values.foldlM Server.applySettings server
        = ⟨(values.filterMap refusal?).map .settingsRefused,
          .ok { server with settings := values.foldl after server.settings }⟩)
      ∧ ∀ (settings : Settings) (members : List (String × Json)) (value : Json),
        Json.lastMember? sectionName members = some value → value ≠ .null →
        (∀ own, value = .object own → Json.lastMember? sectionName own = none) →
        settings.apply (.object members) = settings.apply value := by
  refine ⟨fun _ _ _ => apply_eq_error_iff, fun _ => refusal?_eq_none_iff, ?_,
    fun _ _ => carried?_eq_some_iff, ?_, fun server => server.foldlM_applySettings_eq values, ?_⟩
  · intro settings value hrefused
    rw [← refusal?_eq_none_iff] at hrefused
    obtain ⟨fault, hfault⟩ := Option.ne_none_iff_exists'.mp hrefused
    exact after_of_error (apply_eq_error_iff.mpr hfault)
  · rw [foldl_after_eq]
  · intro settings members value hmember hnull hown
    unfold apply
    rw [flag?_object hmember hnull hown]

/-- The flag of a section stays when a list is refused for its second element, though its first one
is a flag, and when a section is null. -/
theorem settings_last_accepted_refused :
    ([.object [("other", .null), (sectionName, .array [.bool true])],
        .array [.bool false, .integer 1], .object [(sectionName, .null)]].foldl after
          ⟨false⟩).traceSemanticTokens = true
      ∧ ¬ Acceptable (.array [.bool false, .integer 1])
      ∧ apply ⟨false⟩ (.object [("other", .null), (sectionName, .array [.bool true])])
        = apply ⟨false⟩ (.array [.bool true]) := by
  obtain ⟨_, haccept, _, _, hflag, _, hsection⟩ := settings_last_accepted ⟨false⟩
    [.object [("other", .null), (sectionName, .array [.bool true])],
      .array [.bool false, .integer 1], .object [(sectionName, .null)]]
  refine ⟨hflag, ?_, hsection _ _ _ rfl (by simp) (by simp)⟩
  rw [← haccept]
  simp [refusal?, flag?, readSection, readFlag, bind, Except.bind]

end Nadesiko
