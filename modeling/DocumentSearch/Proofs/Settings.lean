import DocumentSearch.Index.Settings
import DocumentSearch.Proofs.Documents

/-!
Settings keep distinct names: taking an entry out, putting one in and moving the analysis settings
to the top leave no name twice, and what a path leads to has distinct names itself.
-/

namespace DocumentSearch.Settings

open Json

theorem hasDistinctNames_swapRemove {entries : Entries Json} (name : String)
    (h : (Json.object entries).hasDistinctNames = true) :
    (Json.object (Entries.swapRemove entries name)).hasDistinctNames = true := by
  rw [hasDistinctNames_object_iff] at h ⊢
  have hperm := Entries.swapRemove_perm_erase h.1 name
  have hnames := Entries.nodup_names_erase h.1 name
  refine ⟨(Entries.names_perm hperm).symm.nodup hnames, ?_⟩
  intro entry hentry
  exact h.2 entry (List.mem_of_mem_filter (hperm.subset hentry))

theorem hasDistinctNames_erase {entries : Entries Json} (name : String)
    (h : (Json.object entries).hasDistinctNames = true) :
    (Json.object (Entries.erase entries name)).hasDistinctNames = true := by
  rw [hasDistinctNames_object_iff] at h ⊢
  exact ⟨Entries.nodup_names_erase h.1 name,
    fun entry hentry => h.2 entry (List.mem_of_mem_filter hentry)⟩

theorem hasDistinctNames_put {entries : Entries Json} {value : Json} (name : String)
    (h : (Json.object entries).hasDistinctNames = true) (hvalue : value.hasDistinctNames = true) :
    (Json.object (Entries.put entries name value)).hasDistinctNames = true := by
  rw [hasDistinctNames_object_iff] at h ⊢
  refine ⟨Entries.nodup_names_put h.1 name value, ?_⟩
  intro entry hentry
  rcases Entries.mem_put hentry with rfl | hold
  · exact hvalue
  · exact h.2 entry hold

theorem hasDistinctNames_putNew {entries : Entries Json} {value : Json} (name : String)
    (h : (Json.object entries).hasDistinctNames = true) (hvalue : value.hasDistinctNames = true) :
    (Json.object (Entries.putNew entries name value)).hasDistinctNames = true := by
  unfold Entries.putNew
  split
  · exact h
  · exact hasDistinctNames_put name h hvalue

theorem hasDistinctNames_normalize {settings : Entries Json}
    (h : (Json.object settings).hasDistinctNames = true) :
    (Json.object (normalize settings)).hasDistinctNames = true := by
  unfold normalize withoutIndexAnalysis
  cases hindex : settings.get? "index" with
  | none => exact h
  | some value =>
    cases value with
    | object index =>
      have hinner : (Json.object index).hasDistinctNames = true :=
        hasDistinctNames_of_get? h hindex
      have hstripped :=
        hasDistinctNames_put "index" h (hasDistinctNames_swapRemove "analysis" hinner)
      dsimp only
      cases hanalysis : Entries.get? index "analysis" with
      | none => exact hstripped
      | some analysis =>
        exact hasDistinctNames_putNew "analysis" hstripped
          (hasDistinctNames_of_get? hinner hanalysis)
    | _ => exact h

theorem follow_append (front back : List String) (document : Json) :
    follow (front ++ back) document = (follow front document).bind (follow back) := by
  induction front generalizing document with
  | nil => rfl
  | cons name rest ih =>
    rw [List.cons_append, follow, follow, Option.bind_assoc]
    exact Option.bind_congr fun inner _ => ih inner

theorem hasDistinctNames_of_follow {path : List String} {document value : Json}
    (hdocument : document.hasDistinctNames = true) (h : follow path document = some value) :
    value.hasDistinctNames = true := by
  induction path generalizing document with
  | nil =>
    rw [follow, Option.some.injEq] at h
    exact h ▸ hdocument
  | cons name rest ih =>
    obtain ⟨inner, hinner, hrest⟩ := Option.bind_eq_some_iff.mp h
    exact ih (hasDistinctNames_of_member hdocument hinner) hrest

/-- Whatever a path of the normalized settings leads to has distinct names. -/
theorem hasDistinctNames_of_lookup_normalize {settings : Entries Json} {path : List String}
    {value : Json} (hsettings : (Json.object settings).hasDistinctNames = true)
    (h : lookup (normalize settings) path = some value) : value.hasDistinctNames = true :=
  hasDistinctNames_of_follow (hasDistinctNames_normalize hsettings) h

end DocumentSearch.Settings
