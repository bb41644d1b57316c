import ContentFilter.Proofs.Files.Growth
import ContentFilter.Proofs.RuleSet.Contents

namespace ContentFilter

namespace LineCache

def contribution (files : FileTree) (cache : LineCache) (source : Source) : Option (List Text) :=
  match source.readLines files with
  | .ok lines => some lines
  | .error _ => Table.get? cache source.name

theorem contribution_ok (files : FileTree) (cache : LineCache) (source : Source) (lines : List Text)
    (read : source.readLines files = .ok lines) : contribution files cache source = some lines := by
  rw [contribution, read]

theorem contribution_congr (files others : FileTree) (cache kept : LineCache) (source : Source)
    (same : ∀ lines, source.readLines files = .ok lines ↔ source.readLines others = .ok lines)
    (entry : Table.get? cache source.name = Table.get? kept source.name) :
    contribution files cache source = contribution others kept source := by
  unfold contribution
  cases here : source.readLines files with
  | ok lines => rw [(same lines).mp here]
  | error fault =>
      cases there : source.readLines others with
      | ok lines =>
          rw [(same lines).mpr there] at here
          cases here
      | error other => exact entry

theorem gather_other (files : FileTree) (cache : LineCache) (sources : List Source) (name : Text)
    (absent : name ∉ sources.map Source.name) :
    Table.get? (gather files cache sources).1 name = Table.get? cache name := by
  induction sources generalizing cache with
  | nil => rfl
  | cons source rest ih =>
      rw [List.map_cons, List.mem_cons, not_or] at absent
      rw [gather]
      cases source.readLines files with
      | ok lines =>
          dsimp only
          rw [ih _ absent.2, Table.get?_put, if_neg absent.1]
      | error fault => exact ih cache absent.2

theorem gather_contributions (files : FileTree) (cache : LineCache) (sources : List Source)
    (distinct : (sources.map Source.name).Nodup) :
    (gather files cache sources).2 = sources.map (contribution files cache) ∧
      ∀ source ∈ sources,
        Table.get? (gather files cache sources).1 source.name =
          contribution files cache source := by
  induction sources generalizing cache with
  | nil => exact ⟨rfl, fun source member => by cases member⟩
  | cons source rest ih =>
      rw [List.map_cons, List.nodup_cons] at distinct
      obtain ⟨alone, later⟩ := distinct
      cases read : source.readLines files with
      | ok lines =>
          obtain ⟨found, kept⟩ := ih (Table.put cache source.name lines) later
          -- the sources that follow have other names and do not see what this one leaves
          have others (other : Source) (member : other ∈ rest) :
              contribution files (Table.put cache source.name lines) other =
                contribution files cache other := by
            refine contribution_congr _ _ _ _ other (fun _ => Iff.rfl) ?_
            rw [Table.get?_put, if_neg]
            exact fun same => alone (same ▸ List.mem_map_of_mem member)
          rw [gather, read]
          dsimp only
          refine ⟨?_, ?_⟩
          · rw [found, List.map_congr_left others, List.map_cons, contribution, read]
          · intro other member
            rcases List.mem_cons.mp member with rfl | member
            · rw [gather_other _ _ _ _ alone, Table.get?_put, if_pos rfl, contribution, read]
            · rw [kept other member, others other member]
      | error fault =>
          obtain ⟨found, kept⟩ := ih cache later
          rw [gather, read]
          dsimp only
          refine ⟨?_, ?_⟩
          · rw [found, List.map_cons, contribution, read]
          · intro other member
            rcases List.mem_cons.mp member with rfl | member
            · rw [gather_other _ _ _ _ alone, contribution, read]
            · exact kept other member

end LineCache

structure Settings.NamesApart (s : Settings) : Prop where
  distinct : (s.enabledSubscriptions.map (·.name)).Nodup
  reserved : ∀ list ∈ s.enabledSubscriptions, list.name ≠ LiveFilter.localName

namespace LiveFilter

theorem configured_names (s : Settings) (apart : s.NamesApart) :
    ((configuredSources s).map Source.name).Nodup := by
  have names : (configuredSources s).map Source.name =
      s.enabledSubscriptions.map (·.name) ++ [localName] := by
    rw [configuredSources, List.map_append, List.map_map]
    rfl
  rw [names, List.nodup_append]
  refine ⟨apart.distinct, by simp, ?_⟩
  intro name member other alone
  obtain ⟨list, among, rfl⟩ := List.mem_map.mp member
  rw [List.mem_singleton.mp alone]
  exact apart.reserved list among

def contributions (f : LiveFilter) (files : FileTree) : List (Option (List Text)) :=
  (configuredSources f.settings).map (f.cache.contribution files)

def counted (f : LiveFilter) (files : FileTree) : List (List Text) :=
  (f.contributions files).filterMap id

section reload

variable (f : LiveFilter) (files : FileTree)

theorem reload_from_settings (sources : List Source) :
    (f.reloadFrom files sources).1.settings = f.settings := by
  rw [reloadFrom]
  dsimp only
  split <;> rfl

theorem reload_from_cache (sources : List Source) :
    (f.reloadFrom files sources).1.cache = (f.cache.gather files sources).1 := by
  rw [reloadFrom]
  dsimp only
  split <;> rfl

theorem reload_settings : (f.reload files).1.settings = f.settings :=
  reload_from_settings f files (configuredSources f.settings)

theorem reload_cache :
    (f.reload files).1.cache = (f.cache.gather files (configuredSources f.settings)).1 :=
  reload_from_cache f files (configuredSources f.settings)

variable (apart : f.settings.NamesApart)

include apart

theorem gathered_counted :
    (f.cache.gather files (configuredSources f.settings)).2.filterMap id = f.counted files := by
  rw [(LineCache.gather_contributions files f.cache _ (configured_names f.settings apart)).1]
  rfl

theorem reload_eq :
    f.reload files =
      if f.counted files = [] then
        ({ f with cache := (f.cache.gather files (configuredSources f.settings)).1 },
          .error (.noUsableSource (configuredSources f.settings).length))
      else
        ({ f with
            active := (Builder.addLines {} (f.counted files).flatten).set
            cache := (f.cache.gather files (configuredSources f.settings)).1 },
          .ok (Builder.addLines {} (f.counted files).flatten).tally) := by
  have sources : (configuredSources f.settings).isEmpty = false := by simp [configuredSources]
  rw [reload, reloadFrom]
  simp only [gathered_counted f files apart, sources, Bool.not_false, Bool.true_and,
    List.isEmpty_iff]

theorem reload_ok_iff : (∃ tally, (f.reload files).2 = .ok tally) ↔ f.counted files ≠ [] := by
  rw [reload_eq f files apart]
  split
  · rename_i none_counted
    simp [none_counted]
  · rename_i some_counted
    simp [some_counted]

theorem reload_active (some_counted : f.counted files ≠ []) :
    (f.reload files).1.active = (Builder.addLines {} (f.counted files).flatten).set := by
  rw [reload_eq f files apart, if_neg some_counted]

theorem reload_entry (source : Source) (member : source ∈ configuredSources f.settings) :
    Table.get? (f.reload files).1.cache source.name = f.cache.contribution files source := by
  rw [reload_cache]
  exact (LineCache.gather_contributions files f.cache _ (configured_names f.settings apart)).2
    source member

theorem contribution_reloaded (others : FileTree) (source : Source)
    (member : source ∈ configuredSources f.settings)
    (same : ∀ lines, source.readLines files = .ok lines ↔ source.readLines others = .ok lines) :
    (f.reload files).1.cache.contribution others source = f.cache.contribution files source := by
  have entry := reload_entry f files apart source member
  unfold LineCache.contribution at entry ⊢
  cases here : source.readLines files with
  | ok lines => rw [(same lines).mp here]
  | error fault =>
      rw [here] at entry
      cases there : source.readLines others with
      | ok lines =>
          rw [(same lines).mpr there] at here
          cases here
      | error other => exact entry

theorem reload_counted : (f.reload files).1.counted files = f.counted files := by
  have same (source : Source) (member : source ∈ configuredSources f.settings) :=
    contribution_reloaded f files apart files source member fun _ => Iff.rfl
  rw [counted, contributions, reload_settings, List.map_congr_left same]
  rfl

end reload

end LiveFilter

end ContentFilter
