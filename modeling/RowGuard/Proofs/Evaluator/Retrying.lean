import RowGuard.Evaluator.Basic
import RowGuard.Proofs.Number.Rounding
import RowGuard.Proofs.Session.Run

/-!
# Asking again

An evaluator that asks again makes one call after the other until one comes to something else than that the inner
evaluator is unavailable, and as many as are allowed at most; between two calls it logs one warning and waits once,
twice as long each time (`Evaluator.retryLoop_eq_turn`, for whatever is called). With outcomes that are laid down in
advance, calls, delays and warnings can be counted (`Evaluator.retrying_counts`).

Both pauses come from outside. The calls end where the log fails to write a warning down, or the waiting fails.
Delays are numbers with 53 binary digits or whole numbers. Whole numbers are doubled exactly; a number with 53 binary
digits is so below `Binary64.limit`, and becomes infinite when it is doubled beyond.
-/

namespace RowGuard.Evaluator

open Sys

variable {α : Type}

/-- The evaluator turned out to be unavailable. -/
def IsUnavailable (outcome : Except Fault α) : Prop := ∃ message, outcome = .error (.unavailable message)

/-! ## Turns -/

/-- The log takes a warning about the delay, and the delay can be waited for. -/
structure Pauses.Pass (pauses : Pauses) (delay : Number) : Prop where
  warned : pauses.warned delay = .ok ()
  waited : pauses.waited delay = .ok ()

/-- Where each delay is written down at once, those below the limit pass. -/
theorem Pauses.noted_pass {delay : Number} {q : ℚ} (h : delay.IsExactly q) (hpos : 0 ≤ q)
    (hlimit : q < Binary64.limit) : Pauses.noted.Pass delay := by
  obtain ⟨seconds, hseconds⟩ := h.exists_toBinary64 hpos hlimit
  refine ⟨?_, rfl⟩
  show delay.toBinary64?.elim _ _ = _
  rw [hseconds]
  rfl

/-- The warning that an attempt is waited after. -/
def retryRecord (name : String) (attempts attempt : ℕ) (delay : Number) : Record :=
  ⟨.warning, .decisions, s!"Evaluator unavailable during {name} (attempt {attempt} of {attempts}), retrying in " ++
    (delay.toBinary64?.elim "" (Binary64.fixed 2)) ++ "s"⟩

/-- The system after an attempt has been warned about and waited after. -/
def paused (name : String) (attempts attempt : ℕ) (delay : Number) (sys : System) : System :=
  { sys with
    journal := retryRecord name attempts attempt delay :: sys.journal
    watch := { sys.watch with sleeps := delay :: sys.watch.sleeps } }

/-- The delay after the attempt with a number, counted from zero. -/
def delayAfter (backoff : Number) (i : ℕ) : Number := Number.twice^[i] backoff

/-- The state in which a call is made, when each call before has been waited after. Calls are counted from zero. -/
def before (name : String) (attempts : ℕ) (call : Sys α) (backoff : Number) (sys : System) : ℕ → System
  | 0 => sys
  | i + 1 => paused name attempts (i + 1) (delayAfter backoff i)
      (call (before name attempts call backoff sys i)).2

section Loop

variable {pauses : Pauses} {name : String} {attempts attempt left : ℕ} {call : Sys α} {delay backoff : Number}
  {sys sys' : System}

theorem warn_of_pass (h : pauses.Pass delay) (sys : System) :
    warn pauses name attempts attempt delay sys =
      (.ok (), { sys with journal := retryRecord name attempts attempt delay :: sys.journal }) := by
  unfold warn
  rw [h.warned, ofExcept_ok, pure_bind_apply, log_apply]
  rfl

theorem wait_of_pass (h : pauses.Pass delay) (sys : System) :
    wait pauses delay sys =
      (.ok (), { sys with watch := { sys.watch with sleeps := delay :: sys.watch.sleeps } }) := by
  unfold wait
  rw [h.waited, ofExcept_ok, pure_bind_apply]
  rfl

/-- A call that comes to something else, or is the last one, has the last word. -/
theorem retryLoop_of_last (h : ¬ IsUnavailable (call sys).1 ∨ attempt = attempts) :
    retryLoop pauses name attempts call (left + 1) attempt delay sys = call sys := by
  rw [retryLoop, handling]
  rcases hcall : call sys with ⟨outcome, after⟩
  rw [hcall] at h
  cases outcome with
  | ok a => rfl
  | error f =>
    cases f with
    | unavailable message =>
      have hlast : attempt = attempts := h.resolve_left (not_not_intro ⟨message, rfl⟩)
      simp [hlast]
    | _ => rfl

/-- Any other call is warned about and waited after, and then there is another one. -/
theorem retryLoop_of_unavailable (h : IsUnavailable (call sys).1) (hmore : attempt ≠ attempts)
    (hpass : pauses.Pass delay) :
    retryLoop pauses name attempts call (left + 1) attempt delay sys =
      retryLoop pauses name attempts call left (attempt + 1) delay.twice
        (paused name attempts attempt delay (call sys).2) := by
  obtain ⟨message, hmessage⟩ := h
  rcases hcall : call sys with ⟨outcome, after⟩
  obtain rfl : outcome = .error (.unavailable message) := by rw [hcall] at hmessage; exact hmessage
  rw [retryLoop, handling, hcall]
  simp only [hmore, if_false]
  rw [bind_of_ok (warn_of_pass hpass after), bind_of_ok (wait_of_pass hpass _)]
  rfl

/-- The calls that are made: each is in the state that those before and the waiting in between have left, and the
last of them has the last word. -/
theorem retryLoop_eq_turn {waits : ℕ} (hwaits : waits < attempts)
    (hunavailable : ∀ i < waits, IsUnavailable (call (before name attempts call backoff sys i)).1)
    (hlast : ¬ IsUnavailable (call (before name attempts call backoff sys waits)).1 ∨ waits + 1 = attempts)
    (hpass : ∀ i < waits, pauses.Pass (delayAfter backoff i)) :
    retryLoop pauses name attempts call attempts 1 backoff sys =
      call (before name attempts call backoff sys waits) := by
  -- from any of the calls on, backwards from the last one
  have hfrom : ∀ i ≤ waits, retryLoop pauses name attempts call (attempts - i) (i + 1) (delayAfter backoff i)
      (before name attempts call backoff sys i) = call (before name attempts call backoff sys waits) := by
    intro i hi
    induction hi using Nat.decreasingInduction with
    | self =>
      rw [show attempts - waits = (attempts - waits - 1) + 1 by omega]
      exact retryLoop_of_last hlast
    | of_succ i hi ih =>
      rw [show attempts - i = (attempts - (i + 1)) + 1 by omega,
        retryLoop_of_unavailable (hunavailable i hi) (by omega) (hpass i hi), ← ih]
      rw [delayAfter, delayAfter, Function.iterate_succ_apply']
      rfl
  exact hfrom 0 (Nat.zero_le _)

end Loop

theorem retry_apply {pauses : Pauses} {config : Option Config} {n : ℕ} {sys : System}
    (h : (config.getD sys.globals.config).retryAttempts.toInt? = some (n : ℤ)) (name : String) (call : Sys α) :
    retry pauses config name call sys =
      retryLoop pauses name n call n 1 (config.getD sys.globals.config).retryBackoff sys := by
  rw [retry, bind_of_ok (configOr_apply config)]
  simp only [h]
  rfl

/-! ## Outcomes laid down in advance -/

/-- The number of calls that have been counted. -/
def callsCounted (sys : System) : ℕ :=
  match sys.watch.calls with
  | .scalar (.int n) => n.toNat
  | _ => 0

/-- A call that does nothing but count itself, and comes to what is laid down for its number. -/
def scripted (outcomes : ℕ → Except Fault α) : Sys α := fun sys =>
  (outcomes (callsCounted sys + 1),
    { sys with watch := { sys.watch with calls := .int (callsCounted sys + 1 : ℕ) } })

/-- The evaluator whose answers are laid down in advance, call by call. -/
def playing (answers : ℕ → Except Fault Data) (fragments : ℕ → Except Fault FragmentId) : Evaluator where
  check _ _ _ _ := scripted answers
  compile _ _ _ _ := scripted fragments

/-- The delays after the first attempts, the latest first. -/
def delaysFor (backoff : Number) (waits : ℕ) : List Number := (List.range waits).reverse.map (delayAfter backoff)

/-- The warnings about the first attempts, the latest first. -/
def warningsFor (name : String) (attempts : ℕ) (backoff : Number) (waits : ℕ) : List Record :=
  (List.range waits).reverse.map fun i => retryRecord name attempts (i + 1) (delayAfter backoff i)

/-- What a call has come to, and the system then, after so many delays. -/
theorem scripted_before (outcomes : ℕ → Except Fault α) (name : String) (attempts : ℕ) (backoff : Number)
    (sys : System) (waits : ℕ) :
    scripted outcomes (before name attempts (scripted outcomes) backoff sys waits) =
      (outcomes (callsCounted sys + (waits + 1)),
        { sys with
          journal := warningsFor name attempts backoff waits ++ sys.journal
          watch := { sys.watch with
            calls := .int (callsCounted sys + (waits + 1) : ℕ)
            sleeps := delaysFor backoff waits ++ sys.watch.sleeps } }) := by
  induction waits with
  | zero => rfl
  | succ waits ih =>
    have hdelays : delaysFor backoff (waits + 1) = delayAfter backoff waits :: delaysFor backoff waits := by
      simp [delaysFor, List.range_succ]
    have hwarnings : warningsFor name attempts backoff (waits + 1) =
        retryRecord name attempts (waits + 1) (delayAfter backoff waits) ::
          warningsFor name attempts backoff waits := by
      simp [warningsFor, List.range_succ]
    rw [before, ih, hdelays, hwarnings]
    rfl

/-- The position of the first outcome other than that the evaluator is unavailable, counted from one. -/
structure IsFirst (outcomes : ℕ → Except Fault α) (k : ℕ) : Prop where
  positive : 0 < k
  answered : ¬ IsUnavailable (outcomes k)
  unavailable : ∀ i, 0 < i → i < k → IsUnavailable (outcomes i)

/-- What asking again does in a number of calls, the first of the outcomes that are laid down: after each call but the
last it warns once and waits once, twice as long each time. -/
structure Asks (name : String) (attempts : ℕ) (backoff : Number) (b : ℚ) (outcomes : ℕ → Except Fault α)
    (sys : System) (made : ℕ) (run : Except Fault α × System) : Prop where
  /-- Calls and waiting alternate, and a call is the last. -/
  alternates : run = scripted outcomes (before name attempts (scripted outcomes) backoff sys (made - 1))
  /-- What the last call comes to is the outcome; the system is changed by counting, warning and waiting only. -/
  result : run = (outcomes (callsCounted sys + made),
    { sys with
      journal := warningsFor name attempts backoff (made - 1) ++ sys.journal
      watch := { sys.watch with
        calls := .int (callsCounted sys + made : ℕ)
        sleeps := delaysFor backoff (made - 1) ++ sys.watch.sleeps } })
  /-- The delays are exactly the first one, twice that, and so on; those with 53 binary digits below the limit. -/
  delays : ∀ i, i + 1 < made → (backoff.IsReal → b * 2 ^ i < Binary64.limit) →
    (delayAfter backoff i).IsExactly (b * 2 ^ i)
  /-- That there is no last call is never come to. -/
  reached : (∀ i, outcomes i ≠ .error (.expectation .unreachable)) → run.1 ≠ .error (.expectation .unreachable)

/-- Asking again makes as many calls as the position of the first outcome other than that the evaluator is unavailable
says, and no more than are allowed; or as many as are allowed, if there is no such outcome. The log takes the warnings
in between, and the delays can be waited for. -/
def CountsCalls (pauses : Pauses) (name : String) (attempts : ℕ) (backoff : Number) (b : ℚ) (outcomes : ℕ → Except Fault α)
    (sys : System) (run : Except Fault α × System) : Prop :=
  (∀ k, IsFirst (fun i => outcomes (callsCounted sys + i)) k →
    (∀ i, i + 1 < min k attempts → pauses.Pass (delayAfter backoff i)) →
    Asks name attempts backoff b outcomes sys (min k attempts) run) ∧
  ((∀ i, 0 < i → IsUnavailable (outcomes (callsCounted sys + i))) →
    (∀ i, i + 1 < attempts → pauses.Pass (delayAfter backoff i)) →
    Asks name attempts backoff b outcomes sys attempts run)

section Counting

variable {pauses : Pauses} {name : String} {attempts : ℕ} {backoff : Number} {b : ℚ} {sys : System}

theorem asks_retryLoop (hbackoff : backoff.IsExactly b) (hpos : 0 ≤ b) (outcomes : ℕ → Except Fault α) {made : ℕ}
    (hmade : 0 < made) (hallowed : made ≤ attempts)
    (hunavailable : ∀ i, 0 < i → i < made → IsUnavailable (outcomes (callsCounted sys + i)))
    (hlast : ¬ IsUnavailable (outcomes (callsCounted sys + made)) ∨ made = attempts)
    (hpass : ∀ i, i + 1 < made → pauses.Pass (delayAfter backoff i)) :
    Asks name attempts backoff b outcomes sys made
      (retryLoop pauses name attempts (scripted outcomes) attempts 1 backoff sys) := by
  obtain ⟨waits, rfl⟩ : ∃ waits, made = waits + 1 := ⟨made - 1, by omega⟩
  have hturn : retryLoop pauses name attempts (scripted outcomes) attempts 1 backoff sys =
      scripted outcomes (before name attempts (scripted outcomes) backoff sys waits) := by
    refine retryLoop_eq_turn (by omega) ?_ ?_ fun i hi => hpass i (by omega)
    · intro i hi
      rw [scripted_before]
      exact hunavailable (i + 1) (by omega) (by omega)
    · rw [scripted_before]
      exact hlast
  refine ⟨hturn, hturn.trans (scripted_before ..), fun i _ hlimit => hbackoff.iterate_twice hpos hlimit, ?_⟩
  intro hnever
  rw [hturn, scripted_before]
  exact hnever _

theorem countsCalls_retryLoop (hbackoff : backoff.IsExactly b) (hpos : 0 ≤ b) (hattempts : 0 < attempts)
    (outcomes : ℕ → Except Fault α) :
    CountsCalls pauses name attempts backoff b outcomes sys
      (retryLoop pauses name attempts (scripted outcomes) attempts 1 backoff sys) := by
  constructor
  · intro k hk hpass
    have hpositive := hk.positive
    refine asks_retryLoop hbackoff hpos outcomes (by omega) (min_le_right k attempts) ?_ ?_ hpass
    · exact fun i hi hless => hk.unavailable i hi (by omega)
    · rcases le_or_gt k attempts with hle | hlt
      · rw [min_eq_left hle]
        exact .inl hk.answered
      · exact .inr (min_eq_right hlt.le)
  · intro hall hpass
    exact asks_retryLoop hbackoff hpos outcomes hattempts le_rfl (fun i hi _ => hall i hi) (.inr rfl) hpass

end Counting

/-- Asking again, with whatever a valid configuration allows and whatever the inner evaluator comes to, call after
call: its checks and its compilations are called until one comes to something else than that it is unavailable, and
as often as is allowed at most; what the last call comes to, value or fault, is the outcome. Between two calls there
is one warning and one delay, if the log takes the warning and the delay can be waited for, and each delay is exactly
twice the one before, if it is a whole number or below the limit of numbers. -/
theorem retrying_counts {config : Option Config} {sys : System} {n : ℕ} {b : ℚ} (pauses : Pauses)
    (hvalid : (config.getD sys.globals.config).IsValid)
    (hattempts : (config.getD sys.globals.config).retryAttempts.toInt? = some (n : ℤ))
    (hbackoff : (config.getD sys.globals.config).retryBackoff.IsExactly b)
    (answers : ℕ → Except Fault Data) (fragments : ℕ → Except Fault FragmentId) :
    (∀ onCallersLink s action r,
      CountsCalls pauses "check" n (config.getD sys.globals.config).retryBackoff b answers sys
        ((retrying config (playing answers fragments) pauses).check onCallersLink s action r sys)) ∧
    ∀ s action type columnRef,
      CountsCalls pauses "compile_list_condition" n (config.getD sys.globals.config).retryBackoff b fragments sys
        ((retrying config (playing answers fragments) pauses).compile s action type columnRef sys) := by
  have hpos : 0 ≤ b := by exact_mod_cast Number.le_of_isBelow hbackoff.value hvalid.backoff
  have hn : 0 < n := by
    have hone := Number.le_of_isBelow (Number.value_of_toInt? hattempts) hvalid.attempts
    exact_mod_cast hone
  constructor
  · intro onCallersLink s action r
    show CountsCalls _ _ _ _ _ _ _ (retry pauses config "check" (scripted answers) sys)
    rw [retry_apply hattempts]
    exact countsCalls_retryLoop hbackoff hpos hn answers
  · intro s action type columnRef
    show CountsCalls _ _ _ _ _ _ _ (retry pauses config "compile_list_condition" (scripted fragments) sys)
    rw [retry_apply hattempts]
    exact countsCalls_retryLoop hbackoff hpos hn fragments

end RowGuard.Evaluator

namespace RowGuard.Patience

open Evaluator

/-- The evaluator cannot be reached twice, and then it allows what is asked. -/
def answers : ℕ → Except Fault Data
  | 3 => .ok (.bool true)
  | _ => .error (.unavailable "policy service unreachable")

def fragments : ℕ → Except Fault FragmentId := fun _ => .error (.unavailable "policy service unreachable")

def config : Config := { retryBackoff := .int 1 }

/-- A configuration with the largest power of two as a delay. -/
def vast : Config := { retryBackoff := .real (.finite (.ofIntWithPrec 1 (-1023))) }

/-- A log that takes every warning, and waiting that always comes to an end. -/
def lenient : Pauses := ⟨fun _ => .ok (), fun _ => .ok ()⟩

def vera : Subject := ⟨.text "User", .text "vera"⟩

def door : Resource := ⟨.text "Door", .int 1⟩

def system : System := { disk := ⟨[]⟩ }

/-- Whether Vera may enter, asked again as the configuration allows. -/
def asked (config : Config) (pauses : Pauses) : Except Fault Data × System :=
  (retrying (some config) (playing answers fragments) pauses).check false vera (.text "enter") door system

theorem isFirst_answers : IsFirst (fun i => answers (callsCounted system + i)) 3 where
  positive := by decide
  answered := by
    rintro ⟨message, h⟩
    cases h
  unavailable i hi hless := by
    obtain rfl | rfl : i = 1 ∨ i = 2 := by omega
    · exact ⟨_, rfl⟩
    · exact ⟨_, rfl⟩

theorem isExactly_int (n : ℤ) : Number.IsExactly (.int n) n where
  value := Number.value_of_toInt? rfl
  rounded := by simp

theorem isValid_of_backoff {backoff : Number} (h : backoff.isBelow 0 = false) :
    ({ retryBackoff := backoff } : Config).IsValid where
  batch n hn := by
    obtain rfl : .int 1000 = n := by simpa using hn
    decide +kernel
  attempts := by
    show (Number.int 3).isBelow 1 = false
    decide +kernel
  backoff := h

/-- Three calls are made, the third one is answered, and the delays are one second and two. -/
theorem retrying_counts_patience :
    config.IsValid ∧ config.retryAttempts.toInt? = some (3 : ℕ) ∧ config.retryBackoff.IsExactly 1 ∧
      (∀ i, i + 1 < 3 → Pauses.noted.Pass (delayAfter config.retryBackoff i)) ∧
      (asked config .noted).1 = .ok (.bool true) ∧ callsCounted (asked config .noted).2 = 3 ∧
      (asked config .noted).2.watch.sleeps = [.int 2, .int 1] := by
  have hvalid : config.IsValid := isValid_of_backoff (by decide +kernel)
  have hbackoff : config.retryBackoff.IsExactly 1 := by exact_mod_cast isExactly_int 1
  have hpass : ∀ i, i + 1 < 3 → Pauses.noted.Pass (delayAfter config.retryBackoff i) := by
    intro i hi
    have hless : (1 : ℚ) * 2 ^ i < Binary64.limit := by
      rw [one_mul]
      exact Binary64.two_pow_lt_limit (by omega)
    exact Pauses.noted_pass (hbackoff.iterate_twice zero_le_one fun _ => hless) (by positivity) hless
  have hcounts : CountsCalls .noted "check" 3 config.retryBackoff 1 answers system (asked config .noted) :=
    (@retrying_counts (some config) system 3 1 .noted hvalid rfl hbackoff answers fragments).1 false vera
      (.text "enter") door
  have hasks := hcounts.1 3 isFirst_answers hpass
  refine ⟨hvalid, rfl, hbackoff, hpass, ?_, ?_, ?_⟩
  · rw [hasks.result]
    rfl
  · rw [hasks.result]
    rfl
  · rw [hasks.result]
    decide

/-- Twice the largest power of two is no number with 53 binary digits: the second delay is infinite, although every
delay can be waited for. -/
theorem doubled_past_the_limit :
    vast.IsValid ∧ vast.retryAttempts.toInt? = some (3 : ℕ) ∧ vast.retryBackoff.IsExactly (2 ^ 1023) ∧
      IsFirst (fun i => answers (callsCounted system + i)) 3 ∧ (∀ delay, lenient.Pass delay) ∧
      (asked vast lenient).2.watch.sleeps = [.real (.infinite false), vast.retryBackoff] ∧
      ¬ (Number.real (.infinite false)).IsExactly (2 ^ 1023 * 2 ^ 1) := by
  have hbackoff : vast.retryBackoff.IsExactly (2 ^ 1023) := by
    refine ⟨?_, ?_⟩
    · show some (Dyadic.ofIntWithPrec 1 (-1023)).toRat = _
      rw [Dyadic.toRat_ofIntWithPrec_eq_mul_two_pow]
      norm_num
    · rintro y hy
      obtain rfl := Binary64.finite.inj (Number.real.inj hy)
      decide +kernel
  have hrun : asked vast lenient = retryLoop lenient "check" 3 (scripted answers) 3 1 vast.retryBackoff system :=
    @retry_apply _ lenient (some vast) 3 system rfl "check" (scripted answers)
  have hturn : asked vast lenient =
      scripted answers (before "check" 3 (scripted answers) vast.retryBackoff system 2) := by
    rw [hrun]
    refine retryLoop_eq_turn (by decide) ?_ (.inr rfl) fun _ _ => ⟨rfl, rfl⟩
    intro i hi
    rw [scripted_before]
    exact isFirst_answers.unavailable (i + 1) (by omega) (by omega)
  refine ⟨isValid_of_backoff (by decide +kernel), rfl, hbackoff, isFirst_answers, fun _ => ⟨rfl, rfl⟩, ?_, ?_⟩
  · rw [hturn, scripted_before]
    decide +kernel
  · rintro ⟨hvalue, -⟩
    simp [Number.value, Binary64.dyadic?] at hvalue

end RowGuard.Patience
