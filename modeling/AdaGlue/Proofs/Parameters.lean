/-
Parameter lists of generated procedures. Each parameter of an interface travels as a buffer and its
size, so that it stands for two parameters of a procedure, and inputs come before outputs. The texts
are put together interface parameter by interface parameter. Read one by one, a declaration lists
each formal parameter with its type, and a call lists their names, in parentheses where there are
any.
-/
import AdaGlue.Ada.Names

namespace AdaGlue

theorem intercalate_flatten {sep : String} {l : List (List String)} (hne : ∀ x ∈ l, x ≠ []) :
    sep.intercalate l.flatten = sep.intercalate (l.map sep.intercalate) := by
  induction l with
  | nil => rfl
  | cons x l ih =>
    have hrest := ih fun y hy => hne y (List.mem_cons_of_mem _ hy)
    rcases l with _ | ⟨y, l⟩
    · simp
    · have hx := hne x List.mem_cons_self
      have hy : (y :: l).flatten ≠ [] := by
        simp [hne y (List.mem_cons_of_mem _ List.mem_cons_self)]
      rw [List.flatten_cons, String.intercalate_append_of_ne_nil hx hy, hrest]
      simp only [List.map_cons, String.intercalate_cons_cons]

/-- Texts that are joined leave no text only if there are none, as long as each has a character. -/
theorem intercalate_eq_empty_iff {sep : String} {l : List String} (h : ∀ s ∈ l, s ≠ "") :
    sep.intercalate l = "" ↔ l = [] := by
  rcases l with _ | ⟨s, l⟩
  · simp
  · have hs := h s List.mem_cons_self
    rcases l with _ | ⟨u, l⟩
    · simp [hs]
    · simp [hs]

namespace Ada

/-! ## Formal parameters -/

/-- The formal parameters for an input of that name, each with its own name and type. -/
def inputFormals (n : String) : List (String × String) :=
  [("IN_" ++ n, "Interfaces.C.char_array"), ("IN_" ++ n ++ "_size", "Integer")]

/-- The formal parameters for an output of that name. -/
def outputFormals (n : String) : List (String × String) :=
  [("OUT_" ++ n, "in out Interfaces.C.char_array"), ("OUT_" ++ n ++ "_size", "access Integer")]

/-- The formal parameters for inputs and outputs of these names, inputs first. -/
def formals (inputs outputs : List String) : List (String × String) :=
  inputs.flatMap inputFormals ++ outputs.flatMap outputFormals

/-- The formal parameters of an interface. -/
def formalsOf (i : Interface) : List (String × String) :=
  formals (i.inputs.map (·.name)) (i.outputs.map (·.name))

/-- What a declaration has behind the name of a procedure with these formal parameters. -/
def formalPart (formals : List (String × String)) : String :=
  if formals = [] then ""
  else "(" ++ "; ".intercalate (formals.map fun x => x.1 ++ " : " ++ x.2) ++ ")"

section

variable (inputs outputs : List Parameter)

/-- Parameters that are written one by one are written interface parameter by interface
parameter. -/
theorem intercalate_formals {sep : String} {write : String × String → String}
    {input output : Parameter → String}
    (hinput : ∀ p, sep.intercalate ((inputFormals p.name).map write) = input p)
    (houtput : ∀ p, sep.intercalate ((outputFormals p.name).map write) = output p) :
    sep.intercalate ((formals (inputs.map (·.name)) (outputs.map (·.name))).map write) =
      sep.intercalate (inputs.map input ++ outputs.map output) := by
  have hflat : (formals (inputs.map (·.name)) (outputs.map (·.name))).map write =
      (inputs.map (fun p => (inputFormals p.name).map write) ++
        outputs.map fun p => (outputFormals p.name).map write).flatten := by
    simp [formals, List.flatMap_def, Function.comp_def]
  rw [hflat, intercalate_flatten]
  · simp [Function.comp_def, hinput, houtput]
  · intro x hx
    rcases List.mem_append.1 hx with hx | hx
    · obtain ⟨p, -, rfl⟩ := List.mem_map.1 hx; simp [inputFormals]
    · obtain ⟨p, -, rfl⟩ := List.mem_map.1 hx; simp [outputFormals]

theorem fst_ne_empty_of_mem_formals {inputs outputs : List String} {x : String × String}
    (hx : x ∈ formals inputs outputs) : x.1 ≠ "" := by
  rcases List.mem_append.1 hx with hx | hx
  · obtain ⟨n, -, hx⟩ := List.mem_flatMap.1 hx
    simp only [inputFormals, List.mem_cons, List.not_mem_nil, or_false] at hx
    rcases hx with rfl | rfl <;> simp
  · obtain ⟨n, -, hx⟩ := List.mem_flatMap.1 hx
    simp only [outputFormals, List.mem_cons, List.not_mem_nil, or_false] at hx
    rcases hx with rfl | rfl <;> simp

/-- A list of actual parameters names the formal ones in their order. -/
theorem bufferActuals_eq :
    bufferActuals inputs outputs =
      ", ".intercalate ((formals (inputs.map (·.name)) (outputs.map (·.name))).map (·.1)) := by
  refine (intercalate_formals inputs outputs (fun p => ?_) fun p => ?_).symm
  · simp [inputFormals, inputActual, String.append_assoc]
    rfl
  · simp [outputFormals, outputActual, String.append_assoc]
    rfl

theorem bufferActuals_eq_empty_iff :
    bufferActuals inputs outputs = "" ↔
      formals (inputs.map (·.name)) (outputs.map (·.name)) = [] := by
  rw [bufferActuals_eq, intercalate_eq_empty_iff, List.map_eq_nil_iff]
  intro s hs
  obtain ⟨x, hx, rfl⟩ := List.mem_map.1 hs
  exact fst_ne_empty_of_mem_formals hx

end

theorem parenthesized_eq_ite {list : String} {p : Prop} [Decidable p] (h : list = "" ↔ p) :
    parenthesized list = if p then "" else "(" ++ list ++ ")" := by
  unfold parenthesized
  simp only [String.isEmpty_iff, h]

/-- A list of formal parameters declares each of them with its type. -/
theorem parenthesized_bufferFormals (i : Interface) :
    parenthesized (bufferFormals i) = formalPart (formalsOf i) := by
  have hlist : bufferFormals i =
      "; ".intercalate ((formalsOf i).map fun x => x.1 ++ " : " ++ x.2) := by
    refine (intercalate_formals i.inputs i.outputs (fun p => ?_) fun p => ?_).symm
    · simp [inputFormals, inputFormal, String.append_assoc]
      rfl
    · simp [outputFormals, outputFormal, String.append_assoc]
      rfl
  have hempty : bufferFormals i = "" ↔ formalsOf i = [] := by
    rw [hlist, intercalate_eq_empty_iff, List.map_eq_nil_iff]
    intro s hs
    obtain ⟨x, -, rfl⟩ := List.mem_map.1 hs
    simp
  rw [parenthesized_eq_ite hempty, hlist, formalPart]

/-! ## Inputs alone -/

/-- What a call has behind the name of a procedure that takes these inputs and no outputs. -/
def inputPart (inputs : List Parameter) : String :=
  if inputs = [] then ""
  else "(" ++ ", ".intercalate
    (inputs.flatMap fun p => ["IN_" ++ p.name, "IN_" ++ p.name ++ "_size"]) ++ ")"

theorem parenthesized_bufferActuals (inputs : List Parameter) :
    parenthesized (bufferActuals inputs []) = inputPart inputs := by
  have hnames : (formals (inputs.map (·.name)) []).map (·.1) =
      inputs.flatMap fun p => ["IN_" ++ p.name, "IN_" ++ p.name ++ "_size"] := by
    simp [formals, inputFormals, List.flatMap_map, List.map_flatMap]
  have hempty : bufferActuals inputs [] = "" ↔ inputs = [] := by
    rw [bufferActuals_eq_empty_iff]
    cases inputs <;> simp [formals, inputFormals]
  have hlist := bufferActuals_eq inputs []
  rw [List.map_nil, hnames] at hlist
  rw [parenthesized_eq_ite hempty, hlist, inputPart]

end Ada

end AdaGlue
