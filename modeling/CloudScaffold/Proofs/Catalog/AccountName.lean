import CloudScaffold.Proofs.Catalog.DisplayName
import CloudScaffold.Proofs.Catalog.Recorded
import CloudScaffold.Proofs.Text.Lower
/-!
# Names of accounts that a template adds

Some names may have few letters and digits and nothing else. A template that needs one makes it from the
display name, whatever that is: the lower-case ASCII letters and digits of its lower case, as many as there
is room for, and a suffix. `IsCompact` says what comes of it, and there is one such name only
(`isCompact_iff`). The field that asks the user for such a name accepts it as it is
(`Field.outcome_of_isCompact`). Main statement: `functionApp_accountName`.
-/
namespace CloudScaffold

open Text

/-! ## Compact names -/

/-- A name with a suffix that is made from a text within a length. -/
structure IsCompact (limit : Nat) (suffix text name : String) : Prop where
  /-- It is made of lower-case ASCII letters and digits. -/
  chars : ∀ c ∈ name.toList, 'a' ≤ c ∧ c ≤ 'z' ∨ '0' ≤ c ∧ c ≤ '9'
  length_le : name.length ≤ limit
  /-- It ends in the suffix. In front of that stand the letters and digits of the text, from the first on,
  and if there are more then it is as long as it may be. -/
  stem : ∃ stem rest, name.toList = stem ++ suffix.toList ∧ text.toList.flatMap slugOf = stem ++ rest ∧
    (rest = [] ∨ name.length = limit)

section
variable {limit : Nat} {suffix text name : String}

theorem toList_compactNameOf (limit : Nat) (suffix text : String) : (compactNameOf limit suffix text).toList =
    (text.toList.flatMap slugOf).take (limit - suffix.length) ++ suffix.toList := by
  rw [compactNameOf, lowerChars, filter_lowerAfter, String.toList_append, String.toList_ofList]

/-- Blanks around a text have no part in its name. -/
theorem compactNameOf_trim (limit : Nat) (suffix text : String) :
    compactNameOf limit suffix (trim text) = compactNameOf limit suffix text := by
  rw [compactNameOf, trim, String.toList_ofList, filter_lowerChars_trim, compactNameOf]

theorem length_compactNameOf (h : suffix.length ≤ limit) : (compactNameOf limit suffix text).length =
    min limit ((text.toList.flatMap slugOf).length + suffix.length) := by
  rw [← String.length_toList, toList_compactNameOf, List.length_append, List.length_take,
    String.length_toList]
  omega

theorem isCompact_compactNameOf (hs : ∀ c ∈ suffix.toList, isSlugChar c = true)
    (hl : suffix.length ≤ limit) : IsCompact limit suffix text (compactNameOf limit suffix text) where
  chars := by
    simp only [← isSlugChar_iff]
    rw [toList_compactNameOf, List.forall_mem_append]
    refine ⟨fun c hc => ?_, hs⟩
    obtain ⟨b, -, hb⟩ := List.mem_flatMap.1 (List.mem_of_mem_take hc)
    exact (List.mem_filter.1 hb).2
  length_le := by
    rw [length_compactNameOf hl]
    exact Nat.min_le_left _ _
  stem := by
    refine ⟨_, _, toList_compactNameOf limit suffix text, (List.take_append_drop _ _).symm, ?_⟩
    rw [List.drop_eq_nil_iff, length_compactNameOf hl]
    omega

/-- **There is one compact name** of a text. -/
theorem isCompact_iff (hs : ∀ c ∈ suffix.toList, isSlugChar c = true) (hl : suffix.length ≤ limit) :
    IsCompact limit suffix text name ↔ name = compactNameOf limit suffix text := by
  refine ⟨fun h => ?_, fun h => h ▸ isCompact_compactNameOf hs hl⟩
  obtain ⟨stem, rest, hname, htext, hrest⟩ := h.stem
  have hlength : name.length = stem.length + suffix.length := by
    rw [← String.length_toList, hname, List.length_append, String.length_toList]
  have hstem : (stem ++ rest).take (limit - suffix.length) = stem := by
    rcases hrest with rfl | hfull
    · rw [List.append_nil]
      exact List.take_of_length_le (by have := h.length_le; omega)
    · exact List.take_left' (by omega)
  rw [← String.toList_inj, hname, toList_compactNameOf, htext, hstem]

theorem IsCompact.suffix_le (h : IsCompact limit suffix text name) : suffix.length ≤ name.length := by
  obtain ⟨stem, -, hname, -⟩ := h.stem
  rw [← name.length_toList, hname, List.length_append, String.length_toList]
  exact Nat.le_add_left _ _

/-- **A field for such names accepts a compact name as it is.** -/
theorem Field.outcome_of_isCompact {f : Field} (hk : f.kind = .string) (hp : f.pattern = some .storageName)
    (h : IsCompact limit suffix text name) (hlow : 3 ≤ suffix.length) (hhigh : limit ≤ 24) :
    f.outcome (some (.str name)) = .accepted (.str name) := by
  have hchars : ∀ c ∈ name.toList, isSlugChar c = true := fun c hc => isSlugChar_iff.2 (h.chars c hc)
  have hlength : 3 ≤ name.toList.length ∧ name.toList.length ≤ 24 := by
    rw [String.length_toList]
    exact ⟨hlow.trans h.suffix_le, h.length_le.trans hhigh⟩
  have hne : name.toList ≠ [] := List.ne_nil_of_length_pos (by omega)
  have haccepts : Pattern.storageName.accepts name = true := by
    simp only [Pattern.accepts, Pattern.matchesChars, Bool.and_eq_true, decide_eq_true_eq, List.all_eq_true]
    exact ⟨hlength, hchars⟩
  refine Field.outcome_blankless hk hne (fun c hc => isBlank_of_isSlugChar (hchars c hc)) ?_
  rw [hp]
  exact haccepts

end

/-! ## Accounts of function apps -/

namespace Addition

/-- Whether an addition gives its resource a compact name. -/
def namesCompactly (limit : Nat) (suffix : String) (a : Addition) : Bool :=
  decide (a.attrs.map (·.1)).Nodup && a.attrs.any fun
    | ("name", .compactName l s) => l == limit && s == suffix
    | _ => false

section
variable {a : Addition} {limit : Nat} {suffix : String} {o : Draft} {q : Resource}

/-- The name of such a resource comes from the display name. -/
theorem Makes.compactName (h : a.Makes o q) (hn : a.namesCompactly limit suffix = true) :
    q.attributes.get? "name" = some (.str (compactNameOf limit suffix o.displayName)) := by
  simp only [namesCompactly, Bool.and_eq_true, decide_eq_true_eq, List.any_eq_true] at hn
  obtain ⟨hnd, ⟨k, t⟩, hmem, hterm⟩ := hn
  split at hterm
  · next heq =>
    simp only [Bool.and_eq_true, beq_iff_eq] at hterm
    obtain ⟨rfl, rfl⟩ := hterm
    cases heq
    refine h.get? hnd hmem rfl fun d _ ho => ?_
    rw [← ho]
    rfl
  · cases hterm

end

end Addition

/-- The storage accounts of a function app are named compactly, and one is made in any case. -/
theorem functionApp_namesCompactly :
    (∀ a ∈ Registry.shipped.additions "azure" Catalog.Azure.functionApp,
      a.type = "azurerm_storage_account" → a.namesCompactly 24 "funcsa" = true) ∧
    ∃ a ∈ Registry.shipped.additions "azure" Catalog.Azure.functionApp,
      a.type = "azurerm_storage_account" ∧ a.onlyIf = .always := by
  decide +kernel

/-- **The storage account of a function app has a legal name.** Whatever text was given for the name of the
function, the graph is built and has an account in it. The name of any such account is made of six to
twenty-four lower-case ASCII letters and digits with the suffix at the end, and the field of the service for
storage accounts accepts it as it is. -/
theorem functionApp_accountName {given values : Attributes}
    (hv : Catalog.Azure.functionApp.validated given = .ok values) : ∃ g text f,
      buildGraph "azure" Catalog.Azure.functionApp values = .ok g ∧
        given.get? "function_name" = some (.str text) ∧
        Catalog.Azure.storageAccount.field? "storage_name" = some f ∧
        (∃ q ∈ g.resources, q.type = "azurerm_storage_account") ∧
        ∀ q ∈ g.resources, q.type = "azurerm_storage_account" → ∃ name,
          q.attributes.get? "name" = some (.str name) ∧ IsCompact 24 "funcsa" text name ∧
            6 ≤ name.length ∧ name.length ≤ 24 ∧ f.outcome (some (.str name)) = .accepted (.str name) := by
  have hs : Catalog.shipped.service "azure" "function_app" = .ok Catalog.Azure.functionApp := rfl
  have hsuffix : ∀ c ∈ "funcsa".toList, isSlugChar c = true := List.all_eq_true.1 (by decide)
  have hdig : Catalog.Azure.functionApp.WithinDigits given := by
    have hforms : ∀ f ∈ Catalog.Azure.functionApp.fields, f.pattern = none := by decide
    intro f hf hp
    rw [hforms f hf] at hp
    cases hp
  obtain ⟨g, hg⟩ := exists_buildGraph hs hv hdig
  obtain ⟨f, text, hf, hgiven, hdisplay⟩ :=
    Service.displayName_validated "azure" hv (by decide +kernel) (by decide +kernel)
  cases hf
  have hrecord := Registry.build_recorded hg
  obtain ⟨hcompact, a, ha, htype, halways⟩ := functionApp_namesCompactly
  obtain ⟨account, haccount, hmade⟩ := hrecord.exists_makes ha halways
  refine ⟨g, text, _, hg, hgiven, rfl, ⟨account, haccount, hmade.type.trans htype⟩, fun q hq hq' => ?_⟩
  -- some addition made the resource, and all additions of its type name it alike
  obtain ⟨b, hb, hm⟩ := hrecord.made q hq
  have hname := hm.compactName (hcompact b hb (hm.type.symm.trans hq'))
  rw [hdisplay, compactNameOf_trim] at hname
  have hspec : IsCompact 24 "funcsa" text (compactNameOf 24 "funcsa" text) :=
    isCompact_compactNameOf hsuffix (by decide)
  exact ⟨_, hname, hspec, hspec.suffix_le, hspec.length_le,
    Field.outcome_of_isCompact rfl rfl hspec (by decide) (by decide)⟩

/-- A function with a long name that has letters beyond ASCII in it; the first comes to two characters. -/
def istanbulOrders : Attributes :=
  [("function_name", .str " İstanbul-Größe Orders PRODUCTION (Europe) "), ("runtime_stack", .str "node")]

theorem functionApp_accountName_istanbulOrders : ∃ values g,
    Catalog.Azure.functionApp.validated istanbulOrders = .ok values ∧
      buildGraph "azure" Catalog.Azure.functionApp values = .ok g ∧
        ∃ q ∈ g.resources, q.type = "azurerm_storage_account" ∧
          q.attributes.get? "name" = some (.str "istanbulgreorderspfuncsa") := by
  have hv : Catalog.Azure.functionApp.validated istanbulOrders =
      .ok (Catalog.Azure.functionApp.validate istanbulOrders).values :=
    Service.validated_of_isEmpty (by decide +kernel)
  obtain ⟨g, text, f, hg, hgiven, -, ⟨q, hq, htype⟩, hnames⟩ := functionApp_accountName hv
  obtain ⟨name, hname, hspec, -⟩ := hnames q hq htype
  cases hgiven
  rw [(isCompact_iff (List.all_eq_true.1 (by decide)) (by decide)).1 hspec] at hname
  have heval : compactNameOf 24 "funcsa" " İstanbul-Größe Orders PRODUCTION (Europe) " =
      "istanbulgreorderspfuncsa" := by decide +kernel
  rw [heval] at hname
  exact ⟨_, g, hv, hg, q, hq, htype, hname⟩

end CloudScaffold
