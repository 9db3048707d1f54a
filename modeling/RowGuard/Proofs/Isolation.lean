import RowGuard.Globals
import RowGuard.Proofs.Outcome
import RowGuard.Proofs.Registry
import RowGuard.Records.Schema

/-!
# Isolation

The global state while a program runs on it, with isolated blocks nested in one another. In every state that the
program comes to, in a block or outside, the configuration keeps its bounds and each of its settings is what the last
call of `configure` that succeeded in the block has given it, or else what the block began with. A block may be left
early, by a fault: its body is then what was done of it, and whatever that is, the state from before the block is back.

* `Config.of_ofSettings`: what a configuration that was accepted has to do with the settings it was made of.
* `Standing.Reaches`: the places that a program comes to, those in its blocks included.
* `Standing.state_of_reaches`: what holds in all of them.
-/

namespace RowGuard

open Outcome

/-! ## Settings -/

/-- The settings of a configuration. -/
inductive Setting where
  | logDecisions
  | onUndeclared
  | maxBatchSize
  | retryAttempts
  | retryBackoff

/-- The name under which a setting is given. -/
def Setting.name : Setting → String
  | logDecisions => "log_policy_decisions"
  | onUndeclared => "on_undeclared_action"
  | maxBatchSize => "max_batch_size"
  | retryAttempts => "evaluator_retry_attempts"
  | retryBackoff => "evaluator_retry_backoff"

/-- What is written for a setting. -/
def Settings.value? (s : Settings) : Setting → Option Data
  | .logDecisions => s.logDecisions
  | .onUndeclared => s.onUndeclared
  | .maxBatchSize => s.maxBatchSize
  | .retryAttempts => s.retryAttempts
  | .retryBackoff => s.retryBackoff

/-- A setting as it is in a configuration. -/
def Config.value (c : Config) : Setting → Data
  | .logDecisions => c.logDecisions
  | .onUndeclared => .text c.onUndeclared.text
  | .maxBatchSize => (c.maxBatchSize.map fun n => .scalar (.ofNumber n)).getD .null
  | .retryAttempts => .scalar (.ofNumber c.retryAttempts)
  | .retryBackoff => .scalar (.ofNumber c.retryBackoff)

/-- What the named settings give for a setting, if that is not null. Of two values for one name the later one counts. -/
def NamedSettings.given (fields : NamedSettings) (k : Setting) : Option Data :=
  (fields.reverse.lookup k.name).filter fun value => decide (value ≠ .null)

namespace Settings

theorem value?_set {s s' : Settings} {name : String} {value : Data} (h : s.set name value = .ok s') (k : Setting) :
    s'.value? k = if k.name == name then some value else s.value? k := by
  unfold set at h
  split at h
  case h_6 => cases h
  all_goals
    obtain rfl := Except.ok.inj h
    cases k <;> rfl

theorem value?_foldlM {fields : NamedSettings} {s s' : Settings}
    (h : fields.foldlM (fun s field => s.set field.1 field.2) s = .ok s') (k : Setting) :
    s'.value? k = (fields.reverse.lookup k.name).or (s.value? k) := by
  induction fields generalizing s with
  | nil =>
    obtain rfl := Except.ok.inj h
    rfl
  | cons field rest ih =>
    obtain ⟨name, value⟩ := field
    rw [List.foldlM_cons, bind_eq_ok_iff] at h
    obtain ⟨s₁, hset, hrest⟩ := h
    have hlast : s₁.value? k = ([(name, value)].lookup k.name).or (s.value? k) := by
      rw [value?_set hset, List.lookup_cons]
      cases k.name == name <;> rfl
    rw [ih hrest, hlast, List.reverse_cons, List.lookup_append, Option.or_assoc]

/-- Settings from names and values have for each name the value that was given last. -/
theorem value?_ofFields {fields : NamedSettings} {s : Settings} (h : ofFields fields = .ok s) (k : Setting) :
    s.value? k = fields.reverse.lookup k.name := by
  rw [value?_foldlM h k]
  cases k <;> exact Option.or_none

theorem value?_laidOver (top bottom : Settings) (k : Setting) :
    (top.laidOver bottom).value? k = (given (top.value? k)).or (bottom.value? k) := by
  cases k <;> rfl

end Settings

namespace Config

theorem value?_toSettings (c : Config) (k : Setting) : c.toSettings.value? k = some (c.value k) := by
  cases k <;> rfl

theorem eq_of_readChoice {value : Data} {choice : UndeclaredAction} (h : readChoice value = .ok choice) :
    value = .text choice.text := by
  unfold readChoice at h
  split at h
  · split at h
    · obtain rfl := Except.ok.inj h
      simp_all [UndeclaredAction.text]
    · split at h
      · obtain rfl := Except.ok.inj h
        simp_all [UndeclaredAction.text]
      · cases h
  · cases h

theorem eq_of_readNumber {value : Data} {n : Number} (h : readNumber value = .ok n) :
    value = .scalar (.ofNumber n) := by
  unfold readNumber at h
  split at h
  case h_1 s =>
    cases s <;> simp [Scalar.number?] at h <;> subst h <;> rfl
  case h_2 => cases h

theorem of_readBounded {least : Int} {fault : Number → ArgumentFault} {value : Data} {n : Number}
    (h : readBounded least fault value = .ok n) : value = .scalar (.ofNumber n) ∧ n.isBelow least = false := by
  unfold readBounded at h
  obtain ⟨m, hm, h⟩ := bind_eq_ok_iff.mp h
  cases hbelow : m.isBelow least with
  | true => simp [hbelow] at h
  | false =>
    simp only [hbelow] at h
    obtain rfl := Except.ok.inj h
    exact ⟨eq_of_readNumber hm, hbelow⟩

/-- Reads the bound of batches, of which there may be none. -/
def readBatchSize : Option Data → Except Fault (Option Number)
  | none => .ok (some (.int 1000))
  | some .null => .ok none
  | some value => (readBounded 1 .batchSizeNotPositive value).map some

theorem ofSettings_eq (s : Settings) : ofSettings s = (do
    let onUndeclared ← (s.onUndeclared.map readChoice).getD (.ok .refuse)
    let maxBatchSize ← readBatchSize s.maxBatchSize
    let retryAttempts ← (s.retryAttempts.map (readBounded 1 .attemptsBelowOne)).getD (.ok (.int 3))
    let retryBackoff ← (s.retryBackoff.map (readBounded 0 .negativeBackoff)).getD
      (.ok (.real (Binary64.ofDecimal 1 (-1))))
    return {
      logDecisions := s.logDecisions.getD (.bool false)
      onUndeclared, maxBatchSize, retryAttempts, retryBackoff }) := by
  unfold ofSettings readBatchSize
  rcases s.maxBatchSize with _ | value
  · rfl
  · cases value with
    | scalar value => cases value <;> rfl
    | _ => rfl

/-- A bounded setting, which is the standard if it is left out. -/
theorem of_bounded {least : Int} {fault : Number → ArgumentFault} {standard n : Number} {setting : Option Data}
    (hstandard : standard.isBelow least = false)
    (h : (setting.map (readBounded least fault)).getD (.ok standard) = .ok n) :
    n.isBelow least = false ∧ ∀ value, setting = some value → Data.scalar (.ofNumber n) = value := by
  cases setting with
  | none =>
    obtain rfl := Except.ok.inj h
    exact ⟨hstandard, by simp⟩
  | some value =>
    obtain ⟨rfl, hbelow⟩ := of_readBounded h
    exact ⟨hbelow, by simp⟩

theorem of_readBatchSize {setting : Option Data} {bound : Option Number} (h : readBatchSize setting = .ok bound) :
    (∀ n, bound = some n → n.isBelow 1 = false) ∧
      ∀ value, setting = some value → (bound.map fun n => Data.scalar (.ofNumber n)).getD .null = value := by
  unfold readBatchSize at h
  split at h
  case h_1 =>
    obtain rfl := Except.ok.inj h
    refine ⟨fun n hn => ?_, by simp⟩
    obtain rfl := Option.some.inj hn
    decide +kernel
  case h_2 =>
    obtain rfl := Except.ok.inj h
    exact ⟨by simp, by simp⟩
  case h_3 =>
    obtain ⟨n, hn, rfl⟩ := map_eq_ok_iff.mp h
    obtain ⟨rfl, hbelow⟩ := of_readBounded hn
    exact ⟨by simpa using hbelow, by simp⟩

/-- A configuration that is accepted keeps its bounds, and has the settings that were written as they were written. -/
theorem of_ofSettings {s : Settings} {c : Config} (h : ofSettings s = .ok c) :
    c.IsValid ∧ ∀ k value, s.value? k = some value → c.value k = value := by
  rw [ofSettings_eq] at h
  obtain ⟨choice, hchoice, h⟩ := bind_eq_ok_iff.mp h
  obtain ⟨bound, hbound, h⟩ := bind_eq_ok_iff.mp h
  obtain ⟨attempts, hattempts, h⟩ := bind_eq_ok_iff.mp h
  obtain ⟨backoff, hbackoff, h⟩ := bind_eq_ok_iff.mp h
  obtain rfl := Except.ok.inj h
  have hbound := of_readBatchSize hbound
  have hattempts := of_bounded (by decide +kernel) hattempts
  have hbackoff := of_bounded (by decide +kernel) hbackoff
  refine ⟨⟨hbound.1, hattempts.1, hbackoff.1⟩, fun k value hvalue => ?_⟩
  cases k with
  | logDecisions => simp_all [Settings.value?, Config.value]
  | onUndeclared =>
    have hsetting : s.onUndeclared = some value := hvalue
    rw [hsetting] at hchoice
    exact (eq_of_readChoice hchoice).symm
  | maxBatchSize => exact hbound.2 value hvalue
  | retryAttempts => exact hattempts.2 value hvalue
  | retryBackoff => exact hbackoff.2 value hvalue

theorem isValid_of_ofNamed {fields : NamedSettings} {c : Config} (h : ofNamed fields = .ok c) : c.IsValid := by
  obtain ⟨s, _, hc⟩ := bind_eq_ok_iff.mp h
  exact (of_ofSettings hc).1

/-- Settings laid over a configuration change just those that are given. -/
theorem of_mergeNamed {c c' : Config} {fields : NamedSettings} (h : c.mergeNamed fields = .ok c') :
    c'.IsValid ∧ ∀ k, c'.value k = (fields.given k).getD (c.value k) := by
  obtain ⟨s, hs, hmerge⟩ := bind_eq_ok_iff.mp h
  obtain ⟨hvalid, hvalue⟩ := of_ofSettings hmerge
  refine ⟨hvalid, fun k => hvalue k _ ?_⟩
  rw [Settings.value?_laidOver, value?_toSettings, Settings.value?_ofFields hs]
  show (fields.given k).or (some (c.value k)) = _
  cases fields.given k <;> rfl

theorem isValid_standard : ({} : Config).IsValid := (of_ofSettings (s := {}) (by rfl)).1

end Config

/-! ## A program on the global state -/

/-- Where a program stands: the configuration that the block it is in began with, the settings that have been laid over
it since by calls that succeeded, the latest first, and the state. -/
structure Standing where
  began : Config
  laid : List NamedSettings := []
  state : Globals

namespace Standing

/-- The beginning of a block, or of the whole program. -/
def start (g : Globals) : Standing := { began := g.config, state := g }

/-- What a step has laid over the configuration. -/
def laidBy (g : Globals) (s : GlobalStep) : List NamedSettings :=
  match s, (g.step s).1 with
  | .configure fields, .ok _ => [fields]
  | _, _ => []

/-- Where the program stands after a step. -/
def next (p : Standing) (s : GlobalStep) : Standing :=
  { p with laid := laidBy p.state s ++ p.laid, state := (p.state.step s).2 }

/-- The places that a program comes to: where it stands, where it comes to after its first step, and, if that is an
isolated block that can be entered, where the block comes to. -/
inductive Reaches : Standing → List GlobalStep → Standing → Prop where
  | here (p : Standing) (program : List GlobalStep) : Reaches p program p
  | next {p q : Standing} {s : GlobalStep} {rest : List GlobalStep} (h : Reaches (p.next s) rest q) :
      Reaches p (s :: rest) q
  | inside {p q : Standing} {settings : Option NamedSettings} {c : Config} {names : List Data}
      {body rest : List GlobalStep} (hconfig : (settings.map Config.ofNamed).getD (.ok {}) = .ok c)
      (htypes : p.state.registry.types = .ok names) (h : Reaches (start (Globals.fresh c)) body q) :
      Reaches p (.isolated settings body :: rest) q

/-- What holds wherever a program comes to. -/
structure Holds (p : Standing) : Prop where
  valid : p.state.config.IsValid
  value : ∀ k, p.state.config.value k = (p.laid.findSome? (·.given k)).getD (p.began.value k)
  registry : p.state.registry.Sound

theorem holds_start {g : Globals} (hvalid : g.config.IsValid) (hregistry : g.registry.Sound) : (start g).Holds :=
  ⟨hvalid, fun _ => rfl, hregistry⟩

end Standing

namespace Globals

/-- The state from before a block finds every type where it was, if the block could be entered. -/
theorem restored_of_types {g : Globals} {names : List Data} (h : g.registry.Sound)
    (htypes : g.registry.types = .ok names) :
    g.restored.config = g.config ∧ g.restored.registry.mappings.Perm g.registry.mappings := by
  obtain ⟨r, hreplay, hperm⟩ := h.exists_replay htypes
  unfold restored
  rw [hreplay]
  exact ⟨rfl, hperm⟩

/-- After an isolated block the configuration and the registrations are those from before it. -/
theorem step_isolated {g : Globals} (h : g.registry.Sound) (settings : Option NamedSettings) (body : List GlobalStep) :
    (g.step (.isolated settings body)).2.config = g.config ∧
      (g.step (.isolated settings body)).2.registry.mappings.Perm g.registry.mappings := by
  unfold step
  split
  case h_1 => exact ⟨rfl, .refl _⟩
  case h_2 => exact ⟨rfl, .refl _⟩
  case h_3 htypes => exact restored_of_types h htypes

/-- A step that fails leaves the state as it was. -/
theorem step_of_error {g : Globals} {s : GlobalStep} {f : Fault} (h : (g.step s).1 = .error f) : (g.step s).2 = g := by
  cases s with
  | new | merge | get | types => rfl
  | clear | leave => cases h
  | configure fields =>
    unfold step at h ⊢
    cases hmerge : g.config.mergeNamed fields with
    | error f => rfl
    | ok c =>
      rw [hmerge] at h
      cases h
  | register type table owner identity =>
    unfold step at h ⊢
    cases hregister : g.registry.register type table owner identity with
    | error f => rfl
    | ok r =>
      rw [hregister] at h
      cases h
  | isolated settings body =>
    unfold step at h ⊢
    split at h
    · rfl
    · rfl
    · cases h

end Globals

namespace Standing

/-- The one step of a run: whatever a program does, and whether or not it fails, what holds goes on holding. -/
theorem Holds.next {p : Standing} (h : p.Holds) (s : GlobalStep) : (p.next s).Holds := by
  cases s with
  | new | merge | get | types | leave => exact h
  | clear => exact ⟨h.valid, h.value, Registry.sound_empty⟩
  | register type table owner identity =>
    cases hregister : p.state.registry.register type table owner identity with
    | error f =>
      have hstep : p.next (.register type table owner identity) = p := by
        simp only [Standing.next, laidBy, Globals.step, hregister, List.nil_append]
      rw [hstep]
      exact h
    | ok r =>
      have hstep : p.next (.register type table owner identity) =
          { p with state := { p.state with registry := r } } := by
        simp only [Standing.next, laidBy, Globals.step, hregister, List.nil_append]
      rw [hstep]
      exact ⟨h.valid, h.value, h.registry.register hregister⟩
  | configure fields =>
    cases hmerge : p.state.config.mergeNamed fields with
    | error f =>
      have hstep : p.next (.configure fields) = p := by
        simp only [Standing.next, laidBy, Globals.step, hmerge, List.nil_append]
      rw [hstep]
      exact h
    | ok c =>
      have hstep : p.next (.configure fields) =
          { p with laid := fields :: p.laid, state := { p.state with config := c } } := by
        simp only [Standing.next, laidBy, Globals.step, hmerge, List.singleton_append]
      obtain ⟨hvalid, hvalue⟩ := Config.of_mergeNamed hmerge
      rw [hstep]
      refine ⟨hvalid, fun k => ?_, h.registry⟩
      -- a setting that is given counts, and one that is not is what it was
      show c.value k = ((fields :: p.laid).findSome? (·.given k)).getD (p.began.value k)
      rw [hvalue k, List.findSome?_cons]
      cases fields.given k with
      | some value => rfl
      | none => exact h.value k
  | isolated settings body =>
    obtain ⟨hconfig, hperm⟩ := Globals.step_isolated h.registry settings body
    refine ⟨?_, fun k => ?_, h.registry.of_perm hperm⟩
    · show (p.state.step (.isolated settings body)).2.config.IsValid
      rw [hconfig]
      exact h.valid
    · show (p.state.step (.isolated settings body)).2.config.value k = _
      rw [hconfig]
      exact h.value k

theorem holds_of_reaches {p q : Standing} {program : List GlobalStep} (h : Reaches p program q) (hp : p.Holds) :
    q.Holds := by
  induction h with
  | here => exact hp
  | next _ ih => exact ih (hp.next _)
  | @inside _ _ settings c _ _ _ hconfig _ _ ih =>
    refine ih (holds_start ?_ Registry.sound_empty)
    show c.IsValid
    cases settings with
    | none =>
      obtain rfl := Except.ok.inj hconfig
      exact Config.isValid_standard
    | some fields => exact Config.isValid_of_ofNamed hconfig

/-- A program ends in a place that it comes to. -/
theorem exists_reaches_steps (p : Standing) (program : List GlobalStep) :
    ∃ q, Reaches p program q ∧ q.state = (p.state.steps program).2 := by
  induction program generalizing p with
  | nil => exact ⟨p, .here p [], rfl⟩
  | cons s rest ih =>
    obtain ⟨q, hq, hstate⟩ := ih (p.next s)
    exact ⟨q, .next hq, hstate⟩

/-- Wherever a program comes to on the global state, in isolated blocks or outside: the configuration keeps its bounds;
each of its settings is what the last successful `configure` since the beginning of the block has given it, or else
what the block began with; a step that fails changes nothing; and an isolated block, whatever it consists of and
however it is left, leaves behind the configuration from before it and a registry that finds every type where it was. -/
theorem state_of_reaches {program : List GlobalStep} {q : Standing} (h : Reaches (start {}) program q) :
    q.state.config.IsValid ∧
      (∀ k, q.state.config.value k = (q.laid.findSome? (·.given k)).getD (q.began.value k)) ∧
      (∀ s f, (q.state.step s).1 = .error f → (q.state.step s).2 = q.state) ∧
      ∀ settings body, (q.state.step (.isolated settings body)).2.config = q.state.config ∧
        ∀ type, (q.state.step (.isolated settings body)).2.registry.lookup type = q.state.registry.lookup type := by
  have hholds : q.Holds := holds_of_reaches h (holds_start Config.isValid_standard Registry.sound_empty)
  refine ⟨hholds.valid, hholds.value, fun _ _ => Globals.step_of_error, fun settings body => ?_⟩
  obtain ⟨hconfig, hperm⟩ := Globals.step_isolated hholds.registry settings body
  refine ⟨hconfig, fun type => ?_⟩
  rw [Registry.lookup_eq, Registry.lookup_eq, hholds.registry.get?_of_perm hperm]

end Standing

/-! ## A block that is left by a fault -/

namespace Rehearsal

open Records Standing

/-- Two steps of the block: a bound for batches, and users in another table than outside. -/
def bound : GlobalStep := .configure [("max_batch_size", .int 2), ("evaluator_retry_attempts", .null)]

def elsewhere : GlobalStep :=
  .register (.text "User") organizations organizations Columns.organizationName

/-- A block that starts from a configuration of its own, and that a fault leaves. -/
def block : GlobalStep := .isolated (some [("on_undeclared_action", .text "deny")]) [bound, elsewhere, .leave]

def before : List GlobalStep := [
  .configure [("max_batch_size", .int 5), ("evaluator_retry_attempts", .int 7)],
  .configure [("max_batch_size", .int 0)],
  .register (.text "User") users users Columns.username]

/-- Where the program stands when it enters the block, and where it stands before the fault that leaves it. -/
def outside : Standing := before.foldl Standing.next (start {})

def inside : Standing := ((start (Globals.fresh { onUndeclared := .deny })).next bound).next elsewhere

theorem reaches_inside : Reaches (start {}) (before ++ [block]) inside := by
  have htypes : outside.state.registry.types = .ok [.text "User"] := by decide +kernel
  exact .next <| .next <| .next <| .inside (by decide +kernel) htypes <| .next <| .next <| .here _ _

theorem reaches_outside : Reaches (start {}) (before ++ [block]) outside :=
  .next <| .next <| .next <| .here _ _

theorem state_of_reaches_rehearsal :
    Reaches (start {}) (before ++ [block]) inside ∧ Reaches (start {}) (before ++ [block]) outside ∧
      inside.state.config.value .maxBatchSize = .int 2 ∧ inside.state.config.value .onUndeclared = .text "deny" ∧
      (outside.state.step block).2.config.value .maxBatchSize = .int 5 ∧
      (outside.state.step block).2.registry.lookup (.text "User") = .ok ⟨.text "User", users, Columns.username⟩ := by
  obtain ⟨-, hinside, -⟩ := state_of_reaches reaches_inside
  obtain ⟨-, houtside, -, hblock⟩ := state_of_reaches reaches_outside
  obtain ⟨hconfig, hlookup⟩ := hblock (some [("on_undeclared_action", .text "deny")]) [bound, elsewhere, .leave]
  refine ⟨reaches_inside, reaches_outside, ?_, ?_, ?_, ?_⟩
  · rw [hinside]
    decide +kernel
  · rw [hinside]
    decide +kernel
  · unfold block
    rw [hconfig, houtside]
    decide +kernel
  · unfold block
    rw [hlookup]
    decide +kernel

end Rehearsal

end RowGuard
