import CloudScaffold.Proofs.Hcl.Redacted
/-!
# What can be written

A value has a written form as an expression (`isExpression`), as a member of a body (`isMember`), or as
a part of an interpolation (`isPart`), and these are just the values for which the renderer gives a
text (`renderValue_isOk`, `renderPieces_isOk`). Hence a graph whose values can stand where they stand
has project files (`projectFiles_of_writable`).
-/
namespace CloudScaffold.Hcl

open Number

/-! ## Values that can be written -/

/-- Whether a value can stand between the quotes of an interpolation. -/
def isPart : Value → Bool
  | .str _ | .raw _ | .ref _ | .var _ => true
  | _ => false

mutual
/-- Whether a value can be written as an expression. -/
def isExpression : Value → Bool
  | .raw _ | .bool _ | .float _ | .str _ | .ref _ | .var _ => true
  | .int n => (writeInt n).isOk
  | .interp ps => ps.all isPart
  | .list xs | .tuple xs => areExpressions xs
  | .map kvs => areMembers kvs
  | _ => false

def areExpressions : List Value → Bool
  | [] => true
  | x :: xs => isExpression x && areExpressions xs

/-- Whether values can be written as the members of a body. -/
def areMembers : List (String × Value) → Bool
  | [] => true
  | (_, v) :: r =>
    (match v with
      | .null => true
      | .block kvs => areMembers kvs
      | .list xs => if isBlockList xs then areBlocks xs else areExpressions xs
      | v => isExpression v) && areMembers r

/-- Whether the blocks among some values have bodies that can be written. -/
def areBlocks : List Value → Bool
  | [] => true
  | .block kvs :: r => areMembers kvs && areBlocks r
  | _ :: r => areBlocks r
end

/-- Whether a value can be written as a member of a body. -/
def isMember (v : Value) : Bool := areMembers [("", v)]

theorem areMembers_cons (k : String) (v : Value) (r : List (String × Value)) :
    areMembers ((k, v) :: r) = (isMember v && areMembers r) := by
  cases v <;> simp [isMember, areMembers]

theorem areMembers_iff {kvs : List (String × Value)} :
    areMembers kvs = true ↔ ∀ kv ∈ kvs, isMember kv.2 = true := by
  induction kvs with
  | nil => simp [areMembers]
  | cons kv kvs ih => rw [areMembers_cons, Bool.and_eq_true, ih, List.forall_mem_cons]

theorem areExpressions_iff {xs : List Value} :
    areExpressions xs = true ↔ ∀ x ∈ xs, isExpression x = true := by
  induction xs with
  | nil => simp [areExpressions]
  | cons x xs ih => rw [areExpressions, Bool.and_eq_true, ih, List.forall_mem_cons]

/-! ## The renderer -/

section
variable {ε α β : Type}

theorem isOk_mapError {ε' : Type} (x : Except ε α) (f : ε → ε') : (x.mapError f).isOk = x.isOk := by
  cases x <;> rfl

theorem isOk_bind_ok (x : Except ε α) (f : α → β) : (x >>= fun a => .ok (f a)).isOk = x.isOk := by
  cases x <;> rfl

theorem isOk_bind_bind {γ : Type} (x : Except ε α) (y : Except ε β) (f : α → β → γ) :
    (x >>= fun a => y >>= fun b => .ok (f a b)).isOk = (x.isOk && y.isOk) := by
  cases x <;> cases y <;> rfl

theorem isOk_bind_ok_bind {γ δ : Type} (x : Except ε α) (y : Except ε β) (f : α → γ)
    (g : γ → β → δ) : (x >>= fun a => .ok (f a) >>= fun c => y >>= fun b => .ok (g c b)).isOk =
      (x.isOk && y.isOk) := by
  cases x <;> cases y <;> rfl

end

theorem renderPart_isOk (v : Value) : (renderPart v).isOk = isPart v := by
  cases v <;> rfl

theorem mapM_renderPart_isOk (ps : List Value) : (ps.mapM renderPart).isOk = ps.all isPart := by
  induction ps with
  | nil => rfl
  | cons p ps ih =>
    rw [List.mapM_cons, List.all_cons, ← renderPart_isOk, ← ih]
    exact isOk_bind_bind ..

mutual
/-- A value has a written form if it is an expression. -/
theorem renderValue_isOk (depth : Nat) : ∀ v : Value, (renderValue depth v).isOk = isExpression v
  | .raw _ | .bool _ | .float _ | .str _ | .ref _ | .var _ => rfl
  | .int n => by simp only [renderValue, isExpression, isOk_mapError]
  | .interp ps => by simp only [renderValue, isExpression, isOk_bind_ok, mapM_renderPart_isOk]
  | .list xs | .tuple xs => by
    simp only [renderValue, isExpression, isOk_bind_ok, renderItems_isOk depth xs]
  | .map [] => rfl
  | .map (kv :: kvs) => by
    simp only [renderValue, isExpression, isOk_bind_ok, renderPieces_isOk (depth + 1) (kv :: kvs)]
  | .null | .block _ | .other _ => rfl

theorem renderItems_isOk (depth : Nat) : ∀ xs : List Value,
    (renderItems depth xs).isOk = areExpressions xs
  | [] => rfl
  | x :: xs => by
    simp only [renderItems, areExpressions, isOk_bind_bind, renderValue_isOk depth x,
      renderItems_isOk depth xs]

/-- Entries have a written form if all of them are members. -/
theorem renderPieces_isOk (depth : Nat) : ∀ kvs : List (String × Value),
    (renderPieces depth kvs).isOk = areMembers kvs
  | [] => rfl
  | (k, .null) :: r => by
    simp only [renderPieces, areMembers, isOk_bind_bind, renderPieces_isOk depth r]
    rfl
  | (k, .block kvs) :: r => by
    simp only [renderPieces, areMembers, isOk_bind_ok_bind, renderPieces_isOk depth r,
      renderPieces_isOk (depth + 1) kvs]
  | (k, .list xs) :: r => by
    simp only [renderPieces, areMembers]
    by_cases hb : isBlockList xs = true
    · simp only [hb, if_true, isOk_bind_bind, renderBlocks_isOk depth k xs,
        renderPieces_isOk depth r]
    · simp only [hb, if_false, Bool.false_eq_true, isOk_bind_ok_bind, renderItems_isOk depth xs,
        renderPieces_isOk depth r]
  | (k, .raw v) :: r | (k, .bool v) :: r | (k, .float v) :: r | (k, .str v) :: r | (k, .ref v) :: r
  | (k, .var v) :: r | (k, .int v) :: r | (k, .interp v) :: r | (k, .tuple v) :: r | (k, .map v) :: r
  | (k, .other v) :: r => by
    simp only [renderPieces, areMembers, isOk_bind_ok_bind, renderPieces_isOk depth r,
      renderValue_isOk depth]

theorem renderBlocks_isOk (depth : Nat) (k : String) : ∀ xs : List Value,
    (renderBlocks depth k xs).isOk = areBlocks xs
  | [] => rfl
  | .block kvs :: r => by
    simp only [renderBlocks, areBlocks, isOk_bind_bind, renderPieces_isOk (depth + 1) kvs,
      renderBlocks_isOk depth k r]
  | .null :: r | .bool _ :: r | .int _ :: r | .float _ :: r | .str _ :: r | .list _ :: r
  | .tuple _ :: r | .map _ :: r | .ref _ :: r | .var _ :: r | .interp _ :: r | .raw _ :: r
  | .other _ :: r => by simp only [renderBlocks, areBlocks, renderBlocks_isOk depth k r]
end

/-! ## Project files -/

theorem isOk_iff {ε α : Type} {x : Except ε α} : x.isOk = true ↔ ∃ a, x = .ok a := by
  cases x <;> simp [Except.isOk, Except.toBool]

theorem mapM_isOk {ε α β : Type} {f : α → Except ε β} : ∀ {xs : List α},
    (∀ x ∈ xs, (f x).isOk = true) → (xs.mapM f).isOk = true
  | [], _ => rfl
  | x :: xs, h => by
    obtain ⟨hx, hxs⟩ := List.forall_mem_cons.1 h
    rw [List.mapM_cons]
    exact (isOk_bind_bind ..).trans (by rw [hx, mapM_isOk hxs]; rfl)

theorem renderBlock_isOk (depth : Nat) (keyword : String) (labels : List String)
    (attrs : Attributes) : (renderBlock depth keyword labels attrs).isOk = areMembers attrs := by
  simp only [renderBlock, renderBody, isOk_bind_ok, renderPieces_isOk]

/-- Whether the provider block of a contract can be written. -/
def isWritableContract (c : Contract) : Bool := areMembers (Contract.blockEntries c.providerBlock)

/-- A graph whose values can be written where they stand. -/
structure Writable (g : Graph) : Prop where
  contract : ∃ c, Contract.find? g.provider = some c ∧ isWritableContract c = true
  resources : ∀ r ∈ g.resources, areMembers r.attributes = true
  outputs : ∀ o ∈ g.outputs, isMember o.value = true
  defaults : ∀ v ∈ g.inputs, isMember v.default = true
  values : ∀ v ∈ g.inputs, v.value.isPlain = true

section
variable {g : Graph}

theorem isMember_optionalText (s : String) : isMember (optionalText s) = true := by
  unfold optionalText
  split <;> rfl

theorem isMember_optionalFlag (b : Bool) : isMember (optionalFlag b) = true := by
  cases b <;> rfl

theorem renderVersions_isOk (localName source version : String) :
    (renderVersions localName (.str source) (.str version)).isOk = true := by
  simp only [renderVersions, isOk_bind_ok, renderBlock_isOk]
  rfl

theorem renderVariables_isOk {vs : List Variable} (h : ∀ v ∈ vs, isMember v.default = true) :
    (renderVariables vs).isOk = true := by
  simp only [renderVariables, isOk_bind_ok]
  refine mapM_isOk fun v hv => ?_
  rw [renderBlock_isOk, variableAttributes]
  simp only [areMembers_cons, isMember_optionalText, isMember_optionalFlag, h v hv]
  rfl

theorem renderOutputs_isOk {os : List Output} (h : ∀ o ∈ os, isMember o.value = true) :
    (renderOutputs os).isOk = true := by
  simp only [renderOutputs, isOk_bind_ok]
  refine mapM_isOk fun o ho => ?_
  rw [renderBlock_isOk, outputAttributes]
  simp only [areMembers_cons, isMember_optionalText, isMember_optionalFlag, h o ho]
  rfl

/-- Only the attributes of the resources that are listed have to be written. -/
theorem renderMain_isOk (h : ∀ r ∈ ordered g.resources, areMembers r.attributes = true) :
    (renderMain g).isOk = true := by
  have hclass : ∀ c ∈ classes g.resources, ∀ r ∈ c.2, areMembers r.attributes = true := by
    intro c hc r hr
    refine h r ?_
    rw [← flatMap_classes]
    exact List.mem_flatMap.2 ⟨c, hc, hr⟩
  simp only [renderMain, isOk_bind_ok]
  refine mapM_isOk fun c hc => ?_
  unfold renderClass
  split
  · rfl
  · rw [isOk_bind_ok]
    exact mapM_isOk fun r hr => (renderBlock_isOk ..).trans (hclass c hc r hr)

/-- A graph that can be written has project files. -/
theorem projectFiles_of_writable (h : Writable g) :
    ∃ files, projectFiles g = .ok files ∧ files ≠ [] := by
  obtain ⟨c, hc, hblock⟩ := h.contract
  obtain ⟨versions, hversions⟩ := isOk_iff.1 (renderVersions_isOk c.localName c.source c.version)
  obtain ⟨providers, hproviders⟩ : ∃ t, renderProviders c.localName c.providerBlock = .ok t := by
    refine isOk_iff.1 ?_
    simp only [renderProviders, isOk_bind_ok, renderBlock_isOk]
    exact hblock
  obtain ⟨declarations, hdeclarations⟩ := isOk_iff.1 (renderVariables_isOk h.defaults)
  obtain ⟨main, hmain⟩ := isOk_iff.1 (renderMain_isOk fun r hr => h.resources r (mem_of_mem_ordered hr))
  obtain ⟨outputs, houtputs⟩ := isOk_iff.1 (renderOutputs_isOk h.outputs)
  obtain ⟨values, hvalues⟩ := renderAssignments_of_isPlain h.values
  refine ⟨[("versions.tf", versions)] ++ [("providers.tf", providers)]
    ++ [("variables.tf", declarations)] ++ [("main.tf", main)]
    ++ (if g.outputs.isEmpty then [] else [("outputs.tf", outputs)])
    ++ (if (assignments g.inputs).isEmpty then [] else [("terraform.tfvars", values)]), ?_, by simp⟩
  simp only [projectFiles, hc, hversions, hproviders, hdeclarations, hmain, houtputs, hvalues]
  by_cases hout : g.outputs.isEmpty = true <;>
    by_cases hval : (assignments g.inputs).isEmpty = true <;>
    simp only [hout, hval, if_true, if_false, Bool.false_eq_true] <;> rfl

end

end CloudScaffold.Hcl
