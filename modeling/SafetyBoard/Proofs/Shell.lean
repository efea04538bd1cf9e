import Mathlib.Data.List.Induction
import SafetyBoard.Proofs.Act
import SafetyBoard.Proofs.Number.Counting
import SafetyBoard.Shell

/-!
# The arguments of a refresh

The arguments are a sequence of pairs, an option and its value, and of each option the last pair
counts. Arguments that split into pairs start one refresh; any others start nothing, and the
complaint is about the place where the splitting stops. To say that nothing else is asked of the
target, the target is watched.
-/

namespace SafetyBoard.Shell

inductive Setting where
  | reason (reason : RefreshReason)
  | user (id : Nat)
  deriving DecidableEq, Repr

inductive Spells : String → String → Setting → Prop where
  | reason {name : String} {reason : RefreshReason} (listed : (name, reason) ∈ reasons) :
      Spells "--reason" name (.reason reason)
  | user {digits : String} (nonempty : digits ≠ "")
      (spelled : ∀ c ∈ digits.toList, c.isDigit = true) :
      Spells "--user" digits (.user (Nat.ofDigitChars 10 digits.toList 0))

theorem spells_reason_iff {name : String} {setting : Setting} : Spells "--reason" name setting ↔
    ∃ reason, (name, reason) ∈ reasons ∧ setting = .reason reason := by
  constructor
  · generalize option_eq : "--reason" = option
    rintro (⟨listed⟩ | _)
    · exact ⟨_, listed, rfl⟩
    · exact absurd option_eq (by decide)
  · rintro ⟨reason, listed, rfl⟩
    exact .reason listed

theorem spells_user_iff {digits : String} {setting : Setting} : Spells "--user" digits setting ↔
    (digits ≠ "" ∧ ∀ c ∈ digits.toList, c.isDigit = true) ∧
      setting = .user (Nat.ofDigitChars 10 digits.toList 0) := by
  constructor
  · generalize option_eq : "--user" = option
    rintro (_ | ⟨nonempty, spelled⟩)
    · exact absurd option_eq (by decide)
    · exact ⟨⟨nonempty, spelled⟩, rfl⟩
  · rintro ⟨⟨nonempty, spelled⟩, rfl⟩
    exact .user nonempty spelled

theorem spells_user_of_all {digits : String} {id : Nat} (nonempty : digits ≠ "")
    (spelled : digits.toList.all Char.isDigit = true)
    (value : Nat.ofDigitChars 10 digits.toList 0 = id) : Spells "--user" digits (.user id) := by
  subst value
  exact .user nonempty (List.all_eq_true.mp spelled)

inductive Splits : List String → List Setting → Prop where
  | nil : Splits [] []
  | pair {option value : String} {setting : Setting} {rest : List String} {settings : List Setting}
      (others : Splits rest settings) (first : Spells option value setting) :
      Splits (option :: value :: rest) (setting :: settings)

inductive Stuck : List String → OptionFault → Prop where
  | reason {rest : List String}
      (other : ∀ value ∈ rest.head?, ∀ reason, (value, reason) ∉ reasons) :
      Stuck ("--reason" :: rest) (.reason rest.head?)
  | user {rest : List String}
      (other : ∀ value ∈ rest.head?, value = "" ∨ ∃ c ∈ value.toList, ¬c.isDigit = true) :
      Stuck ("--user" :: rest) (.user rest.head?)
  | unknown {option : String} {rest : List String} (not_reason : option ≠ "--reason")
      (not_user : option ≠ "--user") : Stuck (option :: rest) (.unknown option)

def BreaksOff (arguments : List String) (fault : OptionFault) : Prop :=
  ∃ front settings bad, arguments = front ++ bad ∧ Splits front settings ∧ Stuck bad fault

namespace Setting

def reason? : Setting → Option RefreshReason
  | reason r => some r
  | user _ => none

def user? : Setting → Option Nat
  | reason _ => none
  | user id => some id

end Setting

def lastReason (settings : List Setting) : RefreshReason :=
  (settings.filterMap Setting.reason?).getLast?.getD .other

def lastUser (settings : List Setting) : Nat :=
  (settings.filterMap Setting.user?).getLast?.getD 0

theorem lookup_reasons {name : String} {reason : RefreshReason} :
    reasons.lookup name = some reason ↔ (name, reason) ∈ reasons := by
  constructor
  · intro found
    obtain ⟨before, after, split, -⟩ := List.lookup_eq_some_iff.mp found
    rw [split]
    exact List.mem_append_right before List.mem_cons_self
  · intro listed
    have each : ∀ p ∈ reasons, reasons.lookup p.1 = some p.2 := by decide
    exact each (name, reason) listed

theorem ofDigits?_of_spelled {digits : String} (nonempty : digits ≠ "")
    (spelled : ∀ c ∈ digits.toList, c.isDigit = true) :
    Number.ofDigits? digits.toList = some (.ofNat (Nat.ofDigitChars 10 digits.toList 0)) := by
  rw [Number.ofDigits?_eq_some_iff]
  exact ⟨⟨mt String.toList_eq_nil_iff.mp nonempty, spelled⟩, rfl⟩

def RefreshOptions.set (options : RefreshOptions) : Setting → RefreshOptions
  | .reason reason => { options with reason }
  | .user id => { options with user := .ofNat id }

theorem foldl_set (settings : List Setting) :
    settings.foldl RefreshOptions.set .default =
      ⟨lastReason settings, .ofNat (lastUser settings)⟩ := by
  induction settings using List.reverseRecOn with
  | nil => rfl
  | append_singleton settings last ih =>
    rw [List.foldl_append, ih]
    cases last <;> simp [RefreshOptions.set, lastReason, lastUser, Setting.reason?, Setting.user?]

theorem parseOptions_append {arguments : List String} {settings : List Setting}
    (split : Splits arguments settings) (options : RefreshOptions) (rest : List String) :
    parseOptions options (arguments ++ rest) =
      parseOptions (settings.foldl RefreshOptions.set options) rest := by
  induction split generalizing options with
  | nil => rfl
  | pair _ first ih =>
    rw [List.cons_append, List.cons_append, List.foldl_cons, ← ih]
    cases first with
    | reason listed =>
      rw [parseOptions, if_pos rfl, lookup_reasons.mpr listed]
      rfl
    | user nonempty spelled =>
      rw [parseOptions, if_neg (by decide), if_pos rfl, ofDigits?_of_spelled nonempty spelled]
      rfl

theorem parseOptions_of_splits {arguments : List String} {settings : List Setting}
    (split : Splits arguments settings) :
    parseOptions .default arguments = .ok ⟨lastReason settings, .ofNat (lastUser settings)⟩ := by
  have read := parseOptions_append split .default []
  rw [List.append_nil, foldl_set, parseOptions] at read
  exact read

theorem parseOptions_of_stuck {bad : List String} {fault : OptionFault} (stuck : Stuck bad fault)
    (options : RefreshOptions) : parseOptions options bad = .error fault := by
  cases stuck with
  | @reason rest other =>
    cases rest with
    | nil => rw [parseOptions, if_pos rfl, List.head?_nil]
    | cons value rest =>
      cases found : reasons.lookup value with
      | none => rw [parseOptions, if_pos rfl, found, List.head?_cons]
      | some reason => exact absurd (lookup_reasons.mp found) (other value rfl reason)
  | @user rest other =>
    cases rest with
    | nil => rw [parseOptions, if_neg (by decide), if_pos rfl, List.head?_nil]
    | cons value rest =>
      cases read : Number.ofDigits? value.toList with
      | none => rw [parseOptions, if_neg (by decide), if_pos rfl, read, List.head?_cons]
      | some user =>
        obtain ⟨⟨nonempty, spelled⟩, -⟩ := Number.ofDigits?_eq_some_iff.mp read
        rcases other value rfl with rfl | ⟨c, member, no_digit⟩
        · exact absurd rfl nonempty
        · exact absurd (spelled c member) no_digit
  | @unknown option rest not_reason not_user =>
    cases rest <;> rw [parseOptions, if_neg not_reason, if_neg not_user]

theorem parseOptions_of_breaksOff {arguments : List String} {fault : OptionFault}
    (broken : BreaksOff arguments fault) (options : RefreshOptions) :
    parseOptions options arguments = .error fault := by
  obtain ⟨front, settings, bad, rfl, split, stuck⟩ := broken
  rw [parseOptions_append split, parseOptions_of_stuck stuck]

theorem Stuck.breaksOff {bad : List String} {fault : OptionFault} (stuck : Stuck bad fault) :
    BreaksOff bad fault := ⟨[], [], bad, rfl, .nil, stuck⟩

theorem spells_or_stuck (option : String) (rest : List String) :
    (∃ value setting others, rest = value :: others ∧ Spells option value setting) ∨
      ∃ fault, Stuck (option :: rest) fault := by
  by_cases is_reason : option = "--reason"
  · subst is_reason
    by_cases other : ∀ value ∈ rest.head?, ∀ reason, (value, reason) ∉ reasons
    · exact Or.inr ⟨_, .reason other⟩
    · push Not at other
      obtain ⟨value, first, reason, listed⟩ := other
      obtain ⟨others, rfl⟩ := List.head?_eq_some_iff.mp first
      exact Or.inl ⟨value, _, others, rfl, .reason listed⟩
  by_cases is_user : option = "--user"
  · subst is_user
    by_cases other : ∀ value ∈ rest.head?, value = "" ∨ ∃ c ∈ value.toList, ¬c.isDigit = true
    · exact Or.inr ⟨_, .user other⟩
    · push Not at other
      obtain ⟨value, first, nonempty, spelled⟩ := other
      obtain ⟨others, rfl⟩ := List.head?_eq_some_iff.mp first
      exact Or.inl ⟨value, _, others, rfl, .user nonempty spelled⟩
  exact Or.inr ⟨_, .unknown is_reason is_user⟩

theorem splits_or_breaksOff (arguments : List String) :
    (∃ settings, Splits arguments settings) ∨ ∃ fault, BreaksOff arguments fault := by
  induction arguments using List.twoStepInduction with
  | nil => exact Or.inl ⟨[], .nil⟩
  | singleton option =>
    rcases spells_or_stuck option [] with ⟨_, _, _, ⟨⟩, _⟩ | ⟨fault, stuck⟩
    exact Or.inr ⟨fault, stuck.breaksOff⟩
  | cons_cons option value rest ih =>
    rcases spells_or_stuck option (value :: rest) with
      ⟨_, setting, _, ⟨⟩, first⟩ | ⟨fault, stuck⟩
    · rcases ih with ⟨settings, split⟩ | ⟨fault, front, settings, bad, rfl, split, stuck⟩
      · exact Or.inl ⟨setting :: settings, split.pair first⟩
      · exact Or.inr ⟨fault, option :: value :: front, setting :: settings, bad, rfl,
          split.pair first, stuck⟩
    · exact Or.inr ⟨fault, stuck.breaksOff⟩

inductive Request where
  | isEnabled
  | refresh (reason : RefreshReason) (group : UserGroup)
  | clearAllData
  deriving DecidableEq, Repr

variable {σ α β : Type}

def noting (request : Request) (act : Act σ α) : Act (σ × List Request) α :=
  ExceptT.mk fun x =>
    let (result, s) := act.run x.1
    (result, s, x.2 ++ [request])

def Target.watched (target : Target σ) : Target (σ × List Request) where
  isEnabled := noting .isEnabled target.isEnabled
  refresh reason group := noting (.refresh reason group) (target.refresh reason group)
  clearAllData := noting .clearAllData target.clearAllData
  log line x := (target.log line x.1, x.2)

theorem run_noting {request : Request} {act : Act σ α} {result : Except Fault α} {s t : σ}
    (ran : act.run s = (result, t)) (calls : List Request) :
    (noting request act).run (s, calls) = (result, t, calls ++ [request]) := by
  change ((act.run s).1, (act.run s).2, calls ++ [request]) = _
  rw [ran]

def Watches (act : Act σ α) (watched : Act (σ × List Request) α) : Prop :=
  ∀ s calls, ∃ more, watched.run (s, calls) = ((act.run s).1, (act.run s).2, calls ++ more)

section Watches

variable {act : Act σ α} {watched : Act (σ × List Request) α}

theorem watches_pure (a : α) : Watches (pure a : Act σ α) (pure a) := by
  intro s calls
  exact ⟨[], by rw [List.append_nil]; rfl⟩

theorem watches_throw (f : Fault) : Watches (throw f : Act σ α) (throw f) := by
  intro s calls
  exact ⟨[], by rw [List.append_nil]; rfl⟩

theorem watches_noting (request : Request) (act : Act σ α) : Watches act (noting request act) :=
  fun _ _ => ⟨[request], rfl⟩

theorem watches_bind (first : Watches act watched) {next : α → Act σ β}
    {next' : α → Act (σ × List Request) β} (later : ∀ a, Watches (next a) (next' a)) :
    Watches (act >>= next) (watched >>= next') := by
  intro s calls
  obtain ⟨early, ran'⟩ := first s calls
  rcases ran : act.run s with ⟨f | a, t⟩
  · rw [ran] at ran'
    exact ⟨early, by rw [Act.run_bind_error ran, Act.run_bind_error ran']⟩
  · rw [ran] at ran'
    obtain ⟨late, went_on⟩ := later a t (calls ++ early)
    exact ⟨early ++ late, by
      rw [Act.run_bind_ok ran, Act.run_bind_ok ran', went_on, List.append_assoc]⟩

theorem watches_tryCatch (body : Watches act watched) {handler : Fault → Act σ α}
    {handler' : Fault → Act (σ × List Request) α} (caught : ∀ f, Watches (handler f) (handler' f)) :
    Watches (tryCatch act handler) (tryCatch watched handler') := by
  intro s calls
  obtain ⟨early, ran'⟩ := body s calls
  rcases ran : act.run s with ⟨f | a, t⟩
  · rw [ran] at ran'
    obtain ⟨late, went_on⟩ := caught f t (calls ++ early)
    exact ⟨early ++ late, by
      rw [Act.run_tryCatch_error ran, Act.run_tryCatch_error ran', went_on, List.append_assoc]⟩
  · rw [ran] at ran'
    exact ⟨early, by rw [Act.run_tryCatch_ok ran, Act.run_tryCatch_ok ran']⟩

end Watches

variable {target : Target σ} {resolveGroup : UserId → UserGroup} {arguments : List String} {s t : σ}

theorem watches_execute (command : Command) :
    Watches (execute target resolveGroup command)
      (execute target.watched resolveGroup command) := by
  cases command with
  | help => exact watches_pure _
  | unknown name => exact watches_pure _
  | enabled =>
    refine watches_bind (watches_noting _ _) fun enabled => ?_
    cases enabled <;> exact watches_pure _
  | clearData => exact watches_bind (watches_noting _ _) fun _ => watches_pure _
  | refresh arguments =>
    rw [execute, execute]
    cases parseOptions .default arguments with
    | error fault => exact watches_pure _
    | ok options => exact watches_bind (watches_noting _ _) fun _ => watches_pure _

theorem watches_run (arguments : List String) :
    Watches (run target resolveGroup arguments) (run target.watched resolveGroup arguments) := by
  refine watches_tryCatch (watches_execute _) fun f => ?_
  cases f with
  | hub e => exact watches_pure _
  | _ =>
    refine watches_bind (fun s calls => ⟨[], ?_⟩) fun _ => watches_throw _
    rw [List.append_nil]
    rfl

theorem run_of_hub {e : HubError}
    (failed : (execute target resolveGroup (.parse arguments)).run s = (.error (.hub e), t)) :
    (run target resolveGroup arguments).run s = (.ok ⟨1, [.err e.message]⟩, t) := by
  rw [run, Act.run_tryCatch_error failed]
  rfl

theorem execute_refused {fault : OptionFault}
    (refused : parseOptions .default arguments = .error fault) :
    execute target resolveGroup (.parse ("refresh" :: arguments)) =
      return ⟨1, [.err fault.text]⟩ := by
  change execute target resolveGroup (.refresh arguments) = _
  rw [execute, refused]

theorem execute_parsed {reason : RefreshReason} {user : UserId}
    (parsed : parseOptions .default arguments = .ok ⟨reason, user⟩) :
    execute target resolveGroup (.parse ("refresh" :: arguments)) = (do
      let id ← target.refresh reason (resolveGroup user)
      return ⟨0, [.out ("Started refresh " ++ id)]⟩) := by
  change execute target resolveGroup (.refresh arguments) = _
  rw [execute, parsed]

theorem run_of_breaksOff {fault : OptionFault} (broken : BreaksOff arguments fault) :
    (run target resolveGroup ("refresh" :: arguments)).run s =
      (.ok ⟨1, [.err fault.text]⟩, s) := by
  rw [run]
  apply Act.run_tryCatch_ok
  rw [execute_refused (parseOptions_of_breaksOff broken .default)]
  rfl

theorem run_of_splits {settings : List Setting} (split : Splits arguments settings) {id : String}
    (started : (target.refresh (lastReason settings)
      (resolveGroup (.ofNat (lastUser settings)))).run s = (.ok id, t)) :
    (run target resolveGroup ("refresh" :: arguments)).run s =
      (.ok ⟨0, [.out ("Started refresh " ++ id)]⟩, t) := by
  rw [run]
  apply Act.run_tryCatch_ok
  rw [execute_parsed (parseOptions_of_splits split)]
  exact Act.run_bind_ok started _

theorem run_of_splits_failed {settings : List Setting} (split : Splits arguments settings)
    {e : HubError} (failed : (target.refresh (lastReason settings)
      (resolveGroup (.ofNat (lastUser settings)))).run s = (.error (.hub e), t)) :
    (run target resolveGroup ("refresh" :: arguments)).run s = (.ok ⟨1, [.err e.message]⟩, t) := by
  apply run_of_hub
  rw [execute_parsed (parseOptions_of_splits split)]
  exact Act.run_bind_error failed _

/-- A refresh is started exactly for arguments that are pairs, once, for the last reason and the
last user that they name, and its id is told. Any other arguments break off, and the place where
they do is what the one line on the error output is about; then nothing is asked of the target. An
error of the hub is told in its own words, whatever the command. -/
theorem refresh_reads_pairs (target : Target σ) (resolveGroup : UserId → UserGroup)
    (arguments : List String) (s : σ) (calls : List Request) :
    (∀ settings, Splits arguments settings →
      let reason := lastReason settings
      let group := resolveGroup (.ofNat (lastUser settings))
      (lastUser settings < 2 ^ 53 → (Number.ofNat (lastUser settings)).Counts (lastUser settings)) ∧
      (∀ id t, (target.refresh reason group).run s = (.ok id, t) →
        (run target.watched resolveGroup ("refresh" :: arguments)).run (s, calls) =
          (.ok ⟨0, [.out ("Started refresh " ++ id)]⟩, t, calls ++ [.refresh reason group])) ∧
      ∀ e t, (target.refresh reason group).run s = (.error (.hub e), t) →
        (run target.watched resolveGroup ("refresh" :: arguments)).run (s, calls) =
          (.ok ⟨1, [.err e.message]⟩, t, calls ++ [.refresh reason group])) ∧
    ((∀ settings, ¬Splits arguments settings) → ∃ fault, BreaksOff arguments fault) ∧
    (∀ fault, BreaksOff arguments fault →
      (run target.watched resolveGroup ("refresh" :: arguments)).run (s, calls) =
        (.ok ⟨1, [.err fault.text]⟩, s, calls)) ∧
    ∀ line, Watches (run target resolveGroup line) (run target.watched resolveGroup line) ∧
      ∀ e t, (execute target resolveGroup (.parse line)).run s = (.error (.hub e), t) →
        (run target resolveGroup line).run s = (.ok ⟨1, [.err e.message]⟩, t) := by
  refine ⟨fun settings split =>
      ⟨Number.counts_ofNat, fun id t started => ?_, fun e t failed => ?_⟩,
    fun unsplit => ?_, fun fault broken => run_of_breaksOff broken,
    fun line => ⟨watches_run line, fun e t => run_of_hub⟩⟩
  · exact run_of_splits split (run_noting started calls)
  · exact run_of_splits_failed split (run_noting failed calls)
  · rcases splits_or_breaksOff arguments with ⟨settings, split⟩ | broken
    · exact absurd split (unsplit settings)
    · exact broken

/-- A hub that gives one id while it is enabled. -/
def switch : Target Bool where
  isEnabled := get
  refresh _ _ := do
    if ← get then return "session-1" else throw (.hub (.featureDisabled "refreshSources"))
  clearAllData := pure ()
  log _ s := s

theorem wide_user_accepted :
    (∀ settings, Splits ["--user", "9007199254740992"] settings →
      ∃ id, .user id ∈ settings ∧ 2 ^ 53 ≤ id) ∧
    (run switch.watched loneUser ["refresh", "--user", "9007199254740992"]).run (true, []) =
      (.ok ⟨0, [.out "Started refresh session-1"]⟩, true,
        [.refresh .other (loneUser (.ofNat (2 ^ 53)))]) := by
  have digits : Spells "--user" "9007199254740992" (.user (2 ^ 53)) :=
    spells_user_of_all (by decide) (by decide +kernel) (by decide +kernel)
  constructor
  · rintro _ (_ | ⟨_, first⟩)
    obtain ⟨-, rfl⟩ := spells_user_iff.mp first
    exact ⟨_, List.mem_cons_self, by decide +kernel⟩
  · have asked : (switch.watched.refresh .other (loneUser (.ofNat (2 ^ 53)))).run (true, []) =
        (.ok "session-1", true, [.refresh .other (loneUser (.ofNat (2 ^ 53)))]) := run_noting rfl []
    exact run_of_splits (.pair .nil digits) asked

/-- Of two users the last one counts, a hub that is turned off says so, and an option that takes
another for its value or has none at the end is complained about. -/
theorem refresh_reads_pairs_repeated :
    (run switch.watched loneUser
        ["refresh", "--user", "10", "--reason", "REBOOT", "--user", "011"]).run (true, []) =
      (.ok ⟨0, [.out "Started refresh session-1"]⟩, true,
        [.refresh .deviceReboot (loneUser (.ofNat 11))]) ∧
    (Number.ofNat 11).Counts 11 ∧
    (run switch.watched loneUser ["refresh"]).run (false, []) =
      (.ok ⟨1, [.err "refreshSources called while the hub is disabled"]⟩, false,
        [.refresh .other (loneUser (.ofNat 0))]) ∧
    (∃ fault, BreaksOff ["--reason", "--user", "1"] fault) ∧
    (run switch.watched loneUser ["refresh", "--reason", "OTHER", "--user"]).run (true, []) =
      (.ok ⟨1, [.err "Invalid --user: (missing)"]⟩, true, []) := by
  have ten : Spells "--user" "10" (.user 10) :=
    spells_user_of_all (by decide) (by decide) (by decide)
  have eleven : Spells "--user" "011" (.user 11) :=
    spells_user_of_all (by decide) (by decide) (by decide)
  have reboot : Spells "--reason" "REBOOT" (.reason .deviceReboot) := .reason (by decide)
  have other : Spells "--reason" "OTHER" (.reason .other) := .reason (by decide)
  obtain ⟨started, -⟩ := refresh_reads_pairs switch loneUser
    ["--user", "10", "--reason", "REBOOT", "--user", "011"] true []
  obtain ⟨small, once, -⟩ := started _ (((Splits.nil.pair eleven).pair reboot).pair ten)
  obtain ⟨refused, -⟩ := refresh_reads_pairs switch loneUser [] false []
  obtain ⟨-, -, told⟩ := refused _ .nil
  obtain ⟨-, broken, -⟩ := refresh_reads_pairs switch loneUser ["--reason", "--user", "1"] true []
  obtain ⟨-, -, complained, -⟩ :=
    refresh_reads_pairs switch loneUser ["--reason", "OTHER", "--user"] true []
  refine ⟨once _ _ rfl, small (by decide), told _ _ rfl, broken ?_, complained (.user none) ?_⟩
  · rintro _ (_ | ⟨_, first⟩)
    obtain ⟨reason, listed, -⟩ := spells_reason_iff.mp first
    have unlisted : ∀ reason, ("--user", reason) ∉ reasons := by
      intro reason
      cases reason <;> decide
    exact unlisted reason listed
  · exact ⟨_, _, _, rfl, Splits.nil.pair other, .user (by simp)⟩

end SafetyBoard.Shell
