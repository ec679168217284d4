import Harvest.Field

/-!
# Extraction

A configuration is evaluated in four phases, each over all fields in order: specifications are
checked, conditions are asked, chains are resolved, and only then selectors are queried and chains
run. A selector is queried once in a call, when the first field that has it is evaluated; what it
found, even if nothing, is remembered for the others.
-/

namespace Harvest

/-- Output keys with their specifications, each key once. -/
structure Configuration (ν : Type) where
  fields : List (Text × RawSpec ν)
  distinct : (fields.map (·.1)).Nodup

namespace Configuration

variable {ν : Type}

def empty : Configuration ν := ⟨[], List.nodup_nil⟩

/-- A key that is there already keeps its place and takes the new specification. -/
def putField (key : Text) (spec : RawSpec ν) (fields : List (Text × RawSpec ν)) :
    List (Text × RawSpec ν) :=
  if fields.any (·.1 = key) then fields.map fun q => if q.1 = key then (key, spec) else q
  else fields ++ [(key, spec)]

theorem keys_putField (key : Text) (spec : RawSpec ν) (fields : List (Text × RawSpec ν)) :
    (putField key spec fields).map (·.1) =
      if key ∈ fields.map (·.1) then fields.map (·.1) else fields.map (·.1) ++ [key] := by
  have hany : fields.any (·.1 = key) = true ↔ key ∈ fields.map (·.1) := by
    simp [List.any_eq_true, List.mem_map]
  by_cases hk : key ∈ fields.map (·.1)
  · rw [putField, if_pos (hany.2 hk), if_pos hk, List.map_map]
    apply List.map_congr_left
    intro q _
    by_cases hq : q.1 = key
    · simp [hq]
    · simp [hq]
  · rw [putField, if_neg (fun h => hk (hany.1 h)), if_neg hk, List.map_append]
    rfl

theorem distinct_putField (key : Text) (spec : RawSpec ν) (fields : List (Text × RawSpec ν))
    (h : (fields.map (·.1)).Nodup) : ((putField key spec fields).map (·.1)).Nodup := by
  rw [keys_putField]
  split
  · exact h
  · rename_i hk
    rw [List.nodup_append]
    refine ⟨h, by simp, ?_⟩
    intro a ha b hb hab
    rw [List.mem_singleton] at hb
    exact hk (hb ▸ hab ▸ ha)

def put (config : Configuration ν) (p : Text × RawSpec ν) : Configuration ν :=
  ⟨putField p.1 p.2 config.fields, distinct_putField p.1 p.2 config.fields config.distinct⟩

/-- A repeated key keeps its first place and takes the last specification. -/
def ofPairs (pairs : List (Text × RawSpec ν)) : Configuration ν :=
  pairs.foldl put empty

end Configuration

/-- A field that takes part: its selector, unless that is empty, and its chain, unless that is. -/
structure ActiveField (ν : Type) where
  key : Text
  selector : Option Text
  chain : Option (Chain ν)

namespace Extraction

variable {ν : Type}

def validateAll : List (Text × RawSpec ν) → Except (Failure ν) (List (Text × FieldSpec ν))
  | [] => .ok []
  | (key, raw) :: rest => do
    let spec ← raw.validate
    return (key, spec) :: (← validateAll rest)

def selectActive :
    List (Text × FieldSpec ν) → Except (Failure ν) (List (Text × FieldSpec ν))
  | [] => .ok []
  | (key, spec) :: rest => do
    let active ← spec.isActive
    let others ← selectActive rest
    return if active then (key, spec) :: others else others

section

variable [Host ν]

/-- An empty chain counts as none. -/
def resolveElements (r : Registry ν) (doc : Document ν) :
    Option (List (Element ν)) → Except (Failure ν) (Option (Chain ν))
  | none | some [] => .ok none
  | some (x :: xs) => (Chain.resolve (x :: xs) r doc).map some

/-- An empty selector counts as none. -/
def resolveField (r : Registry ν) (doc : Document ν) (key : Text) (spec : FieldSpec ν) :
    Except (Failure ν) (ActiveField ν) :=
  (resolveElements r doc spec.elements).map fun chain =>
    ⟨key, spec.selector.filter (· ≠ []), chain⟩

def resolveAll (r : Registry ν) (doc : Document ν) :
    List (Text × FieldSpec ν) → Except (Failure ν) (List (ActiveField ν))
  | [] => .ok []
  | (key, spec) :: rest => do
    let field ← resolveField r doc key spec
    return field :: (← resolveAll r doc rest)

end

/-- What the selectors queried so far have found. -/
abbrev Memo (ν : Type) := List (Text × Value ν)

/-- The value a field starts from, and the memo after it. -/
def start (doc : Document ν) (root : ν) (memo : Memo ν) (selector : Option Text) :
    Outcome ν (Value ν × Memo ν) :=
  match selector with
  | none => pure (doc.value root, memo)
  | some s =>
    match memo.lookup s with
    | some v => pure (v, memo)
    | none => do
      let v ← doc.queryOne root s
      return (v, (s, v) :: memo)

def runChain (chain : Option (Chain ν)) : Step ν :=
  match chain with
  | none => pure
  | some c => c.run

def evaluate (doc : Document ν) (root : ν) :
    Memo ν → List (ActiveField ν) → Outcome ν (List (Text × Value ν))
  | _, [] => pure []
  | memo, field :: rest => do
    let (v, memo) ← start doc root memo field.selector
    let v ← runChain field.chain v
    let others ← evaluate doc root memo rest
    return (field.key, v) :: others

variable [Host ν]

/-- The first three phases, which make no query and run no transformation. -/
def prepare (r : Registry ν) (doc : Document ν) (config : Configuration ν) :
    Except (Failure ν) (List (ActiveField ν)) := do
  let specs ← validateAll config.fields
  let active ← selectActive specs
  resolveAll r doc active

/-- The output keys of the active fields with their values, in the order of the configuration. -/
def extract (r : Registry ν) (doc : Document ν) (root : ν) (config : Configuration ν) :
    Outcome ν (List (Text × Value ν)) := do
  let fields ← Outcome.of (prepare r doc config)
  evaluate doc root [] fields

end Extraction

end Harvest
