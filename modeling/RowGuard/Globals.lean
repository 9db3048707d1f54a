import RowGuard.Config
import RowGuard.Registry

/-!
# Global state and isolation

The global state is the configuration that applies where none is given, and the registry of resource
types. An isolated block works on a state of its own: it starts from a given configuration and an
empty registry, and when it ends, in whatever way, the state from before it is back.
-/

namespace RowGuard

/-- The state that applies where nothing else is given. -/
structure Globals where
  config : Config := {}
  registry : Registry := {}
deriving DecidableEq, Inhabited

/-- Settings by their names. -/
abbrev NamedSettings := List (String × Data)

/-- A step of a program on the global state. -/
inductive GlobalStep where
  | new (settings : NamedSettings)
  | merge (base settings : NamedSettings)
  | configure (settings : NamedSettings)
  | get
  | register (type : Data) (table owner : Schema) (identity : Column)
  | clear
  | types
  /-- A fault that leaves the enclosing block, if it is the block's last step. -/
  | leave
  | isolated (settings : Option NamedSettings) (body : List GlobalStep)
deriving Inhabited

/-- Whether the steps of a block end with a fault that leaves it. -/
def GlobalStep.escapes (body : List GlobalStep) : Bool :=
  match body.getLast? with
  | some .leave => true
  | _ => false

/-- What a step answers. A block answers the configuration inside it, the answers of its steps, and
whether it was left by a fault. -/
inductive GlobalAnswer where
  | config (c : Config)
  | done
  | types (names : List Data)
  | block (inside : Config) (answers : List (Except Fault GlobalAnswer)) (escaped : Bool)

/-- The configuration with the named settings. -/
def Config.ofNamed (fields : NamedSettings) : Except Fault Config := do
  Config.ofSettings (← Settings.ofFields fields)

/-- The configuration with the named settings laid over it. -/
def Config.mergeNamed (c : Config) (fields : NamedSettings) : Except Fault Config := do
  c.merge (← Settings.ofFields fields)

namespace Globals

/-- The state inside an isolated block. -/
def fresh (config : Config) : Globals := ⟨config, {}⟩

/-- The state after an isolated block that was entered in the given state. -/
def restored (entry : Globals) : Globals :=
  match entry.registry.replay with
  | .ok registry => ⟨entry.config, registry⟩
  | .error _ => ⟨entry.config, {}⟩

mutual

/-- Runs a step. A step that fails leaves the state as it was. -/
def step (g : Globals) : GlobalStep → Except Fault GlobalAnswer × Globals
  | .new s => ((Config.ofNamed s).map .config, g)
  | .merge base s => (((Config.ofNamed base).bind (·.mergeNamed s)).map .config, g)
  | .configure s =>
    match g.config.mergeNamed s with
    | .ok c => (.ok (.config c), { g with config := c })
    | .error f => (.error f, g)
  | .get => (.ok (.config g.config), g)
  | .register type table owner identity =>
    match g.registry.register type table owner identity with
    | .ok r => (.ok .done, { g with registry := r })
    | .error f => (.error f, g)
  | .clear => (.ok .done, { g with registry := {} })
  | .types => (g.registry.types.map .types, g)
  | .leave => (.ok .done, g)
  | .isolated settings body =>
    -- a registry without an order cannot be put back, so the block is not entered
    match (settings.map Config.ofNamed).getD (.ok {}), g.registry.types with
    | .error f, _ | .ok _, .error f => (.error f, g)
    | .ok c, .ok _ => (.ok (.block c (steps (fresh c) body).1 (GlobalStep.escapes body)), g.restored)

/-- Runs steps one after the other, whatever their answers. -/
def steps (g : Globals) : List GlobalStep → List (Except Fault GlobalAnswer) × Globals
  | [] => ([], g)
  | s :: rest =>
    ((step g s).1 :: (steps (step g s).2 rest).1, (steps (step g s).2 rest).2)

end

end Globals

end RowGuard
