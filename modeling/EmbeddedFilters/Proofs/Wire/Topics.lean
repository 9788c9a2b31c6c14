import EmbeddedFilters.Wire.Link
import Mathlib.Data.List.DropRight

/-!
# Topics of links

A topic of a link is a word behind a slash, behind the root without the slashes at its end. Two
roots are the same without them exactly if they differ in nothing but such slashes
(`LinkConfig.withoutSlashes_eq_iff`), so two links meet on a topic exactly if their roots do not
differ otherwise. What comes before the last slash of a topic never ends with a slash, and it holds
something else than slashes exactly if the root does (`LinkConfig.separated_root`). That is what the
check of the settings asks for (`LinkConfig.topics_tell_roots_apart`).
-/

namespace EmbeddedFilters.LinkConfig

variable {s t : List Char} {c d : LinkConfig}

/-- Two texts become the same where slashes are put behind them. -/
def SameButSlashes (s t : String) : Prop :=
  ∃ m n, s.toList ++ List.replicate m '/' = t.toList ++ List.replicate n '/'

/-- A topic ends with a slash and a word. What comes before the slash does not end with another one
and does not consist of slashes alone. -/
def Separated (topic word : String) : Prop :=
  ∃ before, topic.toList = before ++ '/' :: word.toList ∧
    before.getLast? ≠ some '/' ∧ ∃ x ∈ before, x ≠ '/'

/-! ### Slashes at the end -/

/-- Slashes at the end do not matter. -/
lemma withoutSlashes_append (s : List Char) (n : Nat) :
    withoutSlashes (s ++ List.replicate n '/') = withoutSlashes s := by
  induction n with
  | zero => rw [List.replicate_zero, List.append_nil]
  | succ n ih =>
    rw [List.replicate_succ', ← List.append_assoc]
    exact (List.rdropWhile_concat_pos _ _ _ rfl).trans ih

/-- Nothing but slashes is left out. -/
lemma exists_slashes (s : List Char) : ∃ n, withoutSlashes s ++ List.replicate n '/' = s := by
  have hslashes : ∀ x ∈ s.rtakeWhile (· == '/'), x = '/' :=
    fun x hx => beq_iff_eq.mp (List.mem_rtakeWhile_imp (p := (· == '/')) hx)
  refine ⟨(s.rtakeWhile (· == '/')).length, ?_⟩
  rw [← List.eq_replicate_of_mem hslashes]
  exact List.rdropWhile_append_rtakeWhile

/-- Texts are the same without their last slashes exactly if they differ in these alone. -/
lemma withoutSlashes_eq_iff : withoutSlashes s = withoutSlashes t ↔
    ∃ m n, s ++ List.replicate m '/' = t ++ List.replicate n '/' := by
  constructor
  · intro h
    obtain ⟨m, hs⟩ := exists_slashes s
    obtain ⟨n, ht⟩ := exists_slashes t
    -- each text is given the slashes of the other
    refine ⟨n, m, ?_⟩
    calc s ++ List.replicate n '/'
        = withoutSlashes s ++ List.replicate (m + n) '/' := by
          rw [← List.replicate_append_replicate, ← List.append_assoc, hs]
      _ = withoutSlashes t ++ List.replicate (n + m) '/' := by rw [h, Nat.add_comm]
      _ = t ++ List.replicate m '/' := by
          rw [← List.replicate_append_replicate, ← List.append_assoc, ht]
  · rintro ⟨m, n, h⟩
    rw [← withoutSlashes_append s m, h, withoutSlashes_append]

/-- A text without its last slashes does not end with one. -/
lemma getLast?_withoutSlashes (s : List Char) : (withoutSlashes s).getLast? ≠ some '/' := by
  intro h
  have hne : withoutSlashes s ≠ [] := by
    intro hnil
    rw [hnil] at h
    cases h
  rw [List.getLast?_eq_some_getLast hne] at h
  exact List.rdropWhile_last_not (· == '/') s hne (beq_iff_eq.mpr (Option.some.inj h))

/-- A text is empty without its last slashes exactly if it has nothing else. -/
lemma exists_mem_withoutSlashes : (∃ x ∈ withoutSlashes s, x ≠ '/') ↔ ∃ x ∈ s, x ≠ '/' := by
  constructor
  · rintro ⟨x, hx, hne⟩
    exact ⟨x, (List.rdropWhile_prefix _ _).subset hx, hne⟩
  · rintro ⟨x, hx, hne⟩
    obtain ⟨n, hs⟩ := exists_slashes s
    rw [← hs, List.mem_append] at hx
    exact ⟨x, hx.resolve_right fun h => hne (List.eq_of_mem_replicate h), hne⟩

/-- Nothing is left without the slashes at both ends exactly if there is nothing else. -/
lemma withoutSlashes_dropWhile_eq_nil :
    withoutSlashes (s.dropWhile (· == '/')) = [] ↔ s.all (· == '/') = true := by
  rw [withoutSlashes, ← List.rdropWhile, List.rdropWhile_eq_nil_iff, List.all_eq_true]
  constructor
  · intro h x hx
    rw [← List.takeWhile_append_dropWhile (p := (· == '/')) (l := s), List.mem_append] at hx
    exact hx.elim List.mem_takeWhile_imp (h x)
  · exact fun h x hx => h x ((List.dropWhile_suffix _).subset hx)

/-! ### Roots and topics -/

/-- Roots are the same exactly if they differ in slashes at their ends. -/
lemma root_eq_iff : c.root = d.root ↔ SameButSlashes c.topicRoot d.topicRoot := by
  rw [root, root, String.ofList_inj]
  exact withoutSlashes_eq_iff

/-- A word behind the root is separated from it exactly if the root holds something else than
slashes. -/
lemma separated_root (c : LinkConfig) (word : String) :
    Separated (c.root ++ ("/" ++ word)) word ↔ ∃ x ∈ c.topicRoot.toList, x ≠ '/' := by
  have htopic : (c.root ++ ("/" ++ word)).toList =
      withoutSlashes c.topicRoot.toList ++ '/' :: word.toList := by
    rw [String.toList_append, String.toList_append, root, String.toList_ofList]
    rfl
  rw [← exists_mem_withoutSlashes]
  constructor
  · rintro ⟨before, hbefore, -, hmore⟩
    rw [htopic] at hbefore
    rwa [List.append_cancel_right hbefore]
  · intro hmore
    exact ⟨_, htopic, getLast?_withoutSlashes _, hmore⟩

/-- No topic for control is one for notifications, whatever the settings. -/
lemma controlTopic_ne_notificationTopic (c d : LinkConfig) :
    c.controlTopic ≠ d.notificationTopic := by
  have hcontrol : c.controlTopic.toList.getLast? = some 'l' := by
    simp [controlTopic, List.getLast?_append]
  have hnotification : d.notificationTopic.toList.getLast? = some 'n' := by
    simp [notificationTopic, List.getLast?_append]
  intro h
  rw [h, hnotification] at hcontrol
  cases hcontrol

/-- Settings are refused for their root exactly if it consists of slashes. -/
lemma validate_eq_emptyTopicRoot :
    c.validate = .error .emptyTopicRoot ↔ c.topicRoot.toList.all (· == '/') = true := by
  unfold validate
  split
  · simp [*]
  · split <;> simp [*]

/-- Settings are valid exactly if there is room for a report and the root is not all slashes. -/
lemma validate_eq_ok :
    c.validate = .ok () ↔ 0 < c.capacity ∧ ∃ x ∈ c.topicRoot.toList, x ≠ '/' := by
  have hslashes : c.topicRoot.toList.all (· == '/') = true ↔
      ¬ ∃ x ∈ c.topicRoot.toList, x ≠ '/' := by
    simp
  unfold validate
  split
  · rename_i hall
    simp [hslashes.mp hall]
  · rename_i hall
    rw [hslashes, not_not] at hall
    split <;> simp [Nat.pos_iff_ne_zero, *]

/-- Two links have the same topic for control exactly if their roots are the same up to slashes at
the end, and the same topic for notifications exactly then; a topic of the one sort is never one of
the other. Settings pass their check exactly if there is room for a report and both topics have one
slash before their last word, behind a root with something else than slashes. They are refused for
their root exactly if nothing is left of it without the slashes at both ends. -/
theorem topics_tell_roots_apart (c d : LinkConfig) :
    (c.controlTopic = d.controlTopic ↔ SameButSlashes c.topicRoot d.topicRoot) ∧
      (c.notificationTopic = d.notificationTopic ↔ SameButSlashes c.topicRoot d.topicRoot) ∧
      c.controlTopic ≠ d.notificationTopic ∧
      (c.validate = .ok () ↔
        0 < c.capacity ∧ Separated c.controlTopic "control" ∧
        Separated c.notificationTopic "notification") ∧
      (c.validate = .error .emptyTopicRoot ↔
        withoutSlashes (c.topicRoot.toList.dropWhile (· == '/')) = []) := by
  have hcontrol : Separated c.controlTopic "control" ↔ ∃ x ∈ c.topicRoot.toList, x ≠ '/' :=
    c.separated_root "control"
  have hnotification : Separated c.notificationTopic "notification" ↔
      ∃ x ∈ c.topicRoot.toList, x ≠ '/' :=
    c.separated_root "notification"
  refine ⟨?_, ?_, c.controlTopic_ne_notificationTopic d, ?_, ?_⟩
  · rw [controlTopic, controlTopic, String.append_left_inj, root_eq_iff]
  · rw [notificationTopic, notificationTopic, String.append_left_inj, root_eq_iff]
  · rw [validate_eq_ok, hcontrol, hnotification, and_self]
  · rw [validate_eq_emptyTopicRoot, withoutSlashes_dropWhile_eq_nil]

/-- Slashes at the end of a root leave no trace in the topics. -/
example : LinkConfig.controlTopic { topicRoot := "rt/cam//" } = "rt/cam/control" := by decide

end EmbeddedFilters.LinkConfig
