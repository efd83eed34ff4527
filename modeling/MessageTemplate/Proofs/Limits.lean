import MessageTemplate.Cache.Limits
import MessageTemplate.Proofs.SettingsForm

/-!
# The limits that settings set

What comes of a settings text, told from its lines. It does not depend on the order of the lines.

* `Limits.setting_of_mem`, `Limits.setting_of_forall_ne`: what a limit is set to.
* `Limits.ofSettings_eq_malformed`: settings are refused for a single assignment that is none of a
  limit.
* `Limits.told`: the lines that set limits, in one order.
* **`Limits.ofSettings_spells`**: the limits that are told are the limits that are set, unless one
  of them is zero; and a text with anything else in it is refused before zeros are looked for.
-/

namespace MessageTemplate.Limits

open Settings (Line)

variable {as : List (Text × Int)} {limit : Limit}

/-! ## Assignments -/

theorem name_injective {l m : Limit} (h : l.name.toList = m.name.toList) : l = m := by
  revert h
  cases l <;> cases m <;> decide

theorem isSetting_iff {a : Text × Int} : isSetting a = true ↔
    (∃ limit : Limit, a.1 = limit.name.toList) ∧ 0 ≤ a.2 ∧ a.2 ≤ maxSetting := by
  have hname : (∃ limit : Limit, a.1 = limit.name.toList) ↔
      a.1 = Limit.maxItems.name.toList ∨ a.1 = Limit.maxTemplateLength.name.toList := by
    constructor
    · rintro ⟨_ | _, h⟩
      · exact .inl h
      · exact .inr h
    · rintro (h | h)
      · exact ⟨_, h⟩
      · exact ⟨_, h⟩
  rw [hname, isSetting, Bool.and_eq_true, Bool.and_eq_true, Bool.or_eq_true, beq_iff_eq, beq_iff_eq,
    decide_eq_true_iff, decide_eq_true_iff, and_assoc]

/-- What a limit is set to, in whatever order the assignments are made. -/
theorem setting_of_mem (hkeys : (as.map (·.1)).Nodup) {v : Int}
    (h : (limit.name.toList, v) ∈ as) : setting as limit = v.toNat := by
  have hsome : (as.find? (·.1 == limit.name.toList)).isSome :=
    List.find?_isSome.2 ⟨_, h, beq_self_eq_true _⟩
  obtain ⟨a, ha⟩ := Option.isSome_iff_exists.1 hsome
  have hkey : a.1 = limit.name.toList := by simpa using List.find?_some ha
  have heq : a = (limit.name.toList, v) :=
    List.inj_on_of_nodup_map hkeys (List.mem_of_find?_eq_some ha) h hkey
  rw [setting, ha, heq, Option.map_some, Option.getD_some]

theorem setting_of_forall_ne (h : ∀ a ∈ as, a.1 ≠ limit.name.toList) :
    setting as limit = usual.get limit := by
  have hnone : as.find? (·.1 == limit.name.toList) = none :=
    List.find?_eq_none.2 fun a ha => by
      rw [beq_iff_eq]
      exact h a ha
  rw [setting, hnone, Option.map_none, Option.getD_none]

theorem ofSettings_eq_malformed {t : Text}
    (h : ∀ as, Settings.read? t = some as → ∃ a ∈ as, isSetting a = false) :
    ofSettings t = .error .malformedSettings := by
  have hnone : (Settings.read? t).bind ofAssignments? = none := by
    rw [Option.bind_eq_none_iff]
    intro as has
    obtain ⟨a, ha, hsetting⟩ := h as has
    refine if_neg fun hall => ?_
    rw [List.all_eq_true.1 hall.1 a ha] at hsetting
    cases hsetting
  rw [ofSettings, hnone]

theorem pos_of_ofSettings {t : Text} {l : Limits} (h : ofSettings t = .ok l) :
    1 ≤ l.maxItems ∧ 1 ≤ l.maxTemplateLength := by
  unfold ofSettings at h
  split at h
  · obtain ⟨rfl, hpos⟩ := validate_eq_ok_iff.1 h
    exact hpos
  · cases h

/-! ## Lines -/

theorem mem_assignments_iff {ls : List Line} {a : Text × Int} : a ∈ ls.flatMap Line.assignments ↔
    ∃ (limit : Limit) (v : Int), .sets limit v ∈ ls ∧ a = (limit.name.toList, v) := by
  rw [List.mem_flatMap]
  constructor
  · rintro ⟨_ | ⟨limit, v⟩ | _, hl, ha⟩
    · cases ha
    · exact ⟨limit, v, hl, List.mem_singleton.1 ha⟩
    · cases ha
  · rintro ⟨limit, v, hl, rfl⟩
    exact ⟨_, hl, List.mem_singleton_self _⟩

theorem flatMap_assignments_filter (ls : List Line) :
    (ls.filter (· ≠ .nothing)).flatMap Line.assignments = ls.flatMap Line.assignments := by
  induction ls with
  | nil => rfl
  | cons l ls ih =>
    cases l with
    | nothing => exact ih
    | sets | foreign => exact congrArg (_ ++ ·) ih

/-- The lines that set limits to these values, as far as there are any. -/
def told (values : Limit → Option Nat) : List Line :=
  [.maxItems, .maxTemplateLength].filterMap fun limit =>
    (values limit).map fun n : Nat => .sets limit n

section Told

variable {values : Limit → Option Nat}

theorem mem_told_iff {l : Line} :
    l ∈ told values ↔ ∃ limit, ∃ n ∈ values limit, l = .sets limit n := by
  have hall (limit : Limit) : limit ∈ [.maxItems, .maxTemplateLength] := by
    cases limit <;> decide
  simp only [told, List.mem_filterMap, hall, true_and, Option.map_eq_some_iff, Option.mem_def,
    eq_comm (a := l)]

theorem mem_assignments_told_iff {a : Text × Int} : a ∈ (told values).flatMap Line.assignments ↔
    ∃ limit, ∃ n ∈ values limit, a = (limit.name.toList, (n : Int)) := by
  rw [mem_assignments_iff]
  constructor
  · rintro ⟨limit, v, hv, rfl⟩
    obtain ⟨_, n, hn, h⟩ := mem_told_iff.1 hv
    cases h
    exact ⟨limit, n, hn, rfl⟩
  · rintro ⟨limit, n, hn, rfl⟩
    exact ⟨limit, n, mem_told_iff.2 ⟨limit, n, hn, rfl⟩, rfl⟩

variable (values) in
theorem nodup_keys_told : (((told values).flatMap Line.assignments).map (·.1)).Nodup := by
  have hname : Limit.maxItems.name.toList ≠ Limit.maxTemplateLength.name.toList := by decide
  cases hitems : values .maxItems <;> cases hlength : values .maxTemplateLength <;>
    simp [told, hitems, hlength, Line.assignments, hname]

variable (has : as.Perm ((told values).flatMap Line.assignments))
include has

theorem nodup_keys_of_perm : (as.map (·.1)).Nodup :=
  (has.map _).nodup_iff.2 (nodup_keys_told values)

theorem setting_told (limit : Limit) :
    setting as limit = (values limit).getD (usual.get limit) := by
  cases hlimit : values limit with
  | none =>
    rw [Option.getD_none, setting_of_forall_ne]
    intro a ha hname
    obtain ⟨other, n, hn, rfl⟩ := mem_assignments_told_iff.1 (has.mem_iff.1 ha)
    rw [name_injective hname, hlimit] at hn
    cases hn
  | some n =>
    have hmem : (limit.name.toList, (n : Int)) ∈ as :=
      has.mem_iff.2 (mem_assignments_told_iff.2 ⟨limit, n, hlimit, rfl⟩)
    rw [Option.getD_some, setting_of_mem (nodup_keys_of_perm has) hmem, Int.toNat_natCast]

theorem ofAssignments?_told (hvalues : ∀ limit, ∀ n ∈ values limit, (n : Int) ≤ maxSetting) :
    ofAssignments? as = some ⟨(values .maxItems).getD usual.maxItems,
      (values .maxTemplateLength).getD usual.maxTemplateLength⟩ := by
  have hall : as.all isSetting = true := by
    rw [List.all_eq_true]
    intro a ha
    obtain ⟨limit, n, hn, rfl⟩ := mem_assignments_told_iff.1 (has.mem_iff.1 ha)
    exact isSetting_iff.2 ⟨⟨limit, rfl⟩, Int.natCast_nonneg n, hvalues limit n hn⟩
  rw [ofAssignments?, if_pos ⟨hall, nodup_keys_of_perm has⟩, setting_told has, setting_told has]
  rfl

end Told

/-! ## Texts -/

section Spells

variable {ls : List Line} {t : Text} (h : Line.Spells ls t)
include h

theorem ofSettings_told {values : Limit → Option Nat}
    (hvalues : ∀ limit, ∀ n ∈ values limit, (n : Int) ≤ maxSetting)
    (htold : (ls.filter (· ≠ .nothing)).Perm (told values)) :
    ofSettings t = validate ⟨(values .maxItems).getD usual.maxItems,
      (values .maxTemplateLength).getD usual.maxTemplateLength⟩ := by
  have hforeign : .foreign ∉ ls := by
    intro hmem
    have hmem := htold.mem_iff.1 (List.mem_filter.2 ⟨hmem, rfl⟩)
    obtain ⟨limit, n, -, hl⟩ := mem_told_iff.1 hmem
    cases hl
  have hperm := flatMap_assignments_filter ls ▸ htold.flatMap_right Line.assignments
  rw [ofSettings, h.read?_eq hforeign, Option.bind_some, ofAssignments?_told hperm hvalues]

/-- Nothing makes up for a foreign key or a number out of range. -/
theorem ofSettings_refused (hls : .foreign ∈ ls ∨
    ∃ (limit : Limit) (v : Int), .sets limit v ∈ ls ∧ (v < 0 ∨ maxSetting < v)) :
    ofSettings t = .error .malformedSettings := by
  apply ofSettings_eq_malformed
  intro as has
  by_cases hforeign : .foreign ∈ ls
  · -- what stands after a foreign key may be no number, and the text is not known to be read
    obtain ⟨a, ha, unknown⟩ := h.key_unknown hforeign has
    refine ⟨a, ha, ?_⟩
    rw [← Bool.not_eq_true, isSetting_iff]
    rintro ⟨⟨limit, hname⟩, -⟩
    exact unknown limit hname
  · obtain ⟨limit, v, hv, hrange⟩ := hls.resolve_left hforeign
    rw [h.read?_eq hforeign, Option.some.injEq] at has
    refine ⟨(limit.name.toList, v), has ▸ mem_assignments_iff.2 ⟨limit, v, hv, rfl⟩, ?_⟩
    rw [← Bool.not_eq_true, isSetting_iff]
    omega

end Spells

/-- **What settings come to.** Accepted limits are at least one. A text that sets each limit at most
once, in any order, and nothing else, sets the limits to these numbers, and a limit that it does not
set to its usual value; the first of them that is zero is reported. If any line assigns to another
key or sets a limit to a number out of range, the text is malformed, zeros or not. -/
theorem ofSettings_spells :
    (∀ (t : Text) (l : Limits), ofSettings t = .ok l → 1 ≤ l.maxItems ∧ 1 ≤ l.maxTemplateLength) ∧
    ∀ (ls : List Line) (t : Text), Line.Spells ls t →
      (∀ values : Limit → Option Nat, (∀ limit, ∀ n ∈ values limit, n < 2 ^ 64) →
        (ls.filter (· ≠ .nothing)).Perm (told values) →
        ofSettings t =
          if (values .maxItems).getD 1000 = 0 then .error (.zeroLimit .maxItems)
          else if (values .maxTemplateLength).getD 1024 = 0 then
            .error (.zeroLimit .maxTemplateLength)
          else .ok ⟨(values .maxItems).getD 1000, (values .maxTemplateLength).getD 1024⟩) ∧
      ((.foreign ∈ ls ∨
          ∃ (limit : Limit) (v : Int), .sets limit v ∈ ls ∧ (v < 0 ∨ 2 ^ 64 ≤ v)) →
        ofSettings t = .error .malformedSettings) := by
  have hmax : maxSetting = 2 ^ 64 - 1 := by decide
  refine ⟨fun t l => pos_of_ofSettings, fun ls t h => ?_⟩
  refine ⟨fun values hvalues htold => ?_, fun hls => ?_⟩
  · have hbounds (limit : Limit) : ∀ n ∈ values limit, (n : Int) ≤ maxSetting := by
      intro n hn
      have := hvalues limit n hn
      omega
    exact ofSettings_told h hbounds htold
  · apply ofSettings_refused h
    refine hls.imp_right ?_
    rintro ⟨limit, v, hv, hrange⟩
    exact ⟨limit, v, hv, by omega⟩

/-- Both limits, in lines that end differently. -/
def reversed : Text :=
  "max_template_len=+1_024 # characters\r\n\tmax_items = 9223372036854775807\n".toList

theorem spells_reversed : Line.Spells
    [.sets .maxTemplateLength 1024, .sets .maxItems 9223372036854775807, .nothing] reversed := by
  have hnone : Settings.Blanks [] := by decide
  have hspace : Settings.Blanks [' '] := by decide
  have htab : Settings.Blanks ['\t'] := by decide
  have hcomment : Settings.Remark "# characters".toList :=
    .comment fun c hc => Settings.isPrintable_iff.1 (List.all_eq_true.1 (by decide) c hc)
  have hlength : Line.Spelled (.sets .maxTemplateLength 1024)
      "max_template_len=+1_024 # characters".toList :=
    .sets hnone .maxTemplateLength hnone hnone
      ⟨.plus, '1', [(true, '0'), (false, '2'), (false, '4')], rfl, by decide, nofun⟩ hspace hcomment
  obtain ⟨n, htext, hvalue⟩ : ∃ n : Settings.Number,
      n.text = "9223372036854775807".toList ∧ n.value = 9223372036854775807 :=
    ⟨⟨.none, '9', "223372036854775807".toList.map (false, ·), rfl, by decide, nofun⟩, rfl,
      by decide +kernel⟩
  have hitems : Line.Spelled (.sets .maxItems 9223372036854775807)
      "\tmax_items = 9223372036854775807".toList := by
    have h := Line.Spelled.sets htab .maxItems hspace hspace n hnone .none
    rwa [htext, hvalue] at h
  exact .cons hlength .carriageReturn (.cons hitems .lineFeed (.last (.nothing hnone .none)))

/-- The limits come in the other order, and a limit of zero is not what a text is refused for. -/
theorem limits_reversed :
    (Line.Spells
        [.sets .maxTemplateLength 1024, .sets .maxItems 9223372036854775807, .nothing] reversed ∧
      ofSettings reversed = .ok ⟨9223372036854775807, 1024⟩) ∧
    (Line.Spells [.sets .maxItems 0, .foreign] "max_items = 0\nmax_entries = 5".toList ∧
      ofSettings "max_items = 0\nmax_entries = 5".toList = .error .malformedSettings) ∧
    (Line.Spells [.sets .maxItems 0, .sets .maxTemplateLength (-1)]
        "max_items = 0\nmax_template_len = -1".toList ∧
      ofSettings "max_items = 0\nmax_template_len = -1".toList = .error .malformedSettings) := by
  have hnone : Settings.Blanks [] := by decide
  have hspace : Settings.Blanks [' '] := by decide
  have hvalues : ∀ limit, ∀ n ∈ some (get ⟨9223372036854775807, 1024⟩ limit), n < 2 ^ 64 := by
    rintro (_ | _) n ⟨⟩ <;> decide
  have hzero : Line.Spelled (.sets .maxItems 0) "max_items = 0".toList :=
    .sets hnone .maxItems hspace hspace ⟨.none, '0', [], rfl, nofun, fun _ => rfl⟩ hnone .none
  have hforeign : Line.Spelled .foreign "max_entries = 5".toList := by
    have unknown (limit : Limit) : "max_entries".toList ≠ limit.name.toList := by
      cases limit <;> decide
    exact .foreign hnone (by decide) unknown hspace (by decide : Settings.InLine [' ', '5'])
  have hnegative : Line.Spelled (.sets .maxTemplateLength (-1)) "max_template_len = -1".toList :=
    .sets hnone .maxTemplateLength hspace hspace ⟨.minus, '1', [], rfl, nofun, nofun⟩ hnone .none
  have hfirst := Line.Spells.cons hzero .lineFeed (.last hforeign)
  have hsecond := Line.Spells.cons hzero .lineFeed (.last hnegative)
  refine ⟨⟨spells_reversed, ?_⟩, ⟨hfirst, ?_⟩, ⟨hsecond, ?_⟩⟩
  · exact (ofSettings_spells.2 _ _ spells_reversed).1 (some <| get ⟨9223372036854775807, 1024⟩ ·)
      hvalues (.swap _ _ _)
  · exact (ofSettings_spells.2 _ _ hfirst).2 (.inl (by decide))
  · exact (ofSettings_spells.2 _ _ hsecond).2 (.inr ⟨.maxTemplateLength, -1, by decide, by decide⟩)

end MessageTemplate.Limits
