import FormulaOcr.Proofs.Action
import FormulaOcr.Proofs.Dictionary
import FormulaOcr.Rest.Route

/-! The forms of answers. What a command answers already has the form that its route gives to
answers, so that no member is lost on the way out. -/

namespace FormulaOcr

open FormulaOcr.Action

namespace Rest.Shape

/-- Members in the order in which a form lists them. The form may list others, which are left out;
those that are there have values in their own forms. -/
inductive Fits : List (String × Shape) → Dictionary Json → Prop
  | nil : Fits [] []
  | there {name : String} {shape : Shape} {value : Json} {members : List (String × Shape)}
    {entries : Dictionary Json} (hvalue : value ≠ .null) (hshape : shape.restrict value = value)
    (rest : Fits members entries) : Fits ((name, shape) :: members) ((name, value) :: entries)
  | left {name : String} {shape : Shape} {members : List (String × Shape)}
    {entries : Dictionary Json} (rest : Fits members entries) :
    Fits ((name, shape) :: members) entries

variable {members : List (String × Shape)} {entries : Dictionary Json}

theorem Fits.keys_sublist (h : Fits members entries) :
    (Dictionary.keys entries).Sublist (members.map Prod.fst) := by
  induction h with
  | nil => exact List.Sublist.refl []
  | there _ _ _ ih => exact ih.cons_cons _
  | left _ ih => exact ih.cons _

/-- Members that fit stay as they are, wherever the form looks them up. -/
theorem Fits.restrictMembers (h : Fits members entries) (hnodup : (members.map Prod.fst).Nodup)
    {all : Dictionary Json}
    (hall : ∀ name ∈ members.map Prod.fst, all.find? name = Dictionary.find? entries name) :
    restrictMembers members (.obj all) = entries := by
  induction h with
  | nil => rfl
  | @there name shape value members entries hvalue hshape rest ih =>
    rw [List.map_cons, List.nodup_cons] at hnodup
    have hfound : (Json.obj all).member name = value := by
      rw [Json.member, Json.member?, hall name (by simp), Dictionary.find?_cons, if_pos rfl]
      rfl
    have hrest : Shape.restrictMembers members (.obj all) = entries := by
      refine ih hnodup.2 fun other hother => ?_
      have hne : name ≠ other := fun hsame => hnodup.1 (hsame ▸ hother)
      rw [hall other (List.mem_cons_of_mem _ hother), Dictionary.find?_cons, if_neg hne]
    have hmember : restrictMember (name, shape) (.obj all) = [(name, value)] := by
      rw [restrictMember, hfound]
      cases value with
      | null => exact absurd rfl hvalue
      | _ => exact congrArg (fun j => [(name, j)]) hshape
    rw [Shape.restrictMembers, hmember, hrest]
    rfl
  | @left name shape members entries rest ih =>
    rw [List.map_cons, List.nodup_cons] at hnodup
    have hnone : Dictionary.find? entries name = none :=
      Dictionary.find?_of_notMem fun hmem => hnodup.1 (rest.keys_sublist.subset hmem)
    have hmember : restrictMember (name, shape) (.obj all) = [] := by
      rw [restrictMember, Json.member, Json.member?, hall name (by simp), hnone]
      rfl
    rw [Shape.restrictMembers, hmember,
      ih hnodup.2 fun other hother => hall other (List.mem_cons_of_mem _ hother)]
    rfl

/-- An object that fits stays as it is. -/
theorem Fits.restrict (h : Fits members entries) (hnodup : (members.map Prod.fst).Nodup) :
    (record members).restrict (.obj entries) = .obj entries := by
  rw [Shape.restrict, h.restrictMembers hnodup fun _ _ => rfl]

/-- A member that is there only if it has a value. -/
theorem Fits.optional {α : Type} (name : String) (value : Option α) {form : α → Json}
    (hform : ∀ x, form x ≠ .null) (h : Fits members entries) :
    Fits ((name, .any) :: members)
      ((value.map fun x => (name, form x)).toList ++ entries) := by
  cases value with
  | none => exact .left h
  | some x => exact .there (hform x) (by cases form x <;> rfl) h

theorem Fits.lastOptional {α : Type} (name : String) (value : Option α) {form : α → Json}
    (hform : ∀ x, form x ≠ .null) :
    Fits [(name, .any)] (value.map fun x => (name, form x)).toList := by
  have h := Fits.optional name value hform .nil
  rwa [List.append_nil] at h

/-- A member that is always there. -/
theorem Fits.any {name : String} {value : Json} (hvalue : value ≠ .null)
    (h : Fits members entries) : Fits ((name, .any) :: members) ((name, value) :: entries) :=
  .there hvalue (by cases value <;> rfl) h

theorem restrict_list {item : Shape} {items : List Json}
    (h : ∀ j ∈ items, item.restrict j = j) : (list item).restrict (.arr items) = .arr items := by
  rw [Shape.restrict, List.map_congr_left h, List.map_id']

end Rest.Shape

open Rest.Shape

/-! What commands answer. -/

theorem Rest.Shape.Fits.summary {members : List (String × Rest.Shape)}
    {entries : Dictionary Json} (balance : Option SiliconFlow.Balance) (h : Fits members entries) :
    Fits (("sf_balance", .any) :: ("sf_charge_balance", .any) :: members)
      (SiliconFlow.Balance.summary balance ++ entries) := by
  unfold SiliconFlow.Balance.summary
  rw [List.append_assoc]
  exact .optional _ _ (by simp) (.optional _ _ (by simp) h)

theorem NamedModel.restrict_toJson (m : NamedModel) :
    (plain ["id", "name", "free_per_day"]).restrict m.toJson = m.toJson :=
  Fits.restrict (.any (by simp) (.any (by simp) (.any (by simp) .nil))) (by decide)

theorem SettingsView.restrict_toJson (view : SettingsView) :
    settings.restrict view.toJson = view.toJson := by
  refine Fits.restrict ?_ (by decide)
  refine .any (by simp) (.any (by simp) (.any (by simp) (.there (by simp) ?_ ?_)))
  · refine restrict_list fun j hj => ?_
    obtain ⟨m, -, rfl⟩ := List.mem_map.1 hj
    exact m.restrict_toJson
  · exact .any (by simp) (.summary _ (.any (by simp [Json.texts]) .nil))

theorem Probe.restrict_toJson (p : Probe) : probe.restrict p.toJson = p.toJson := by
  refine Fits.restrict (.any (by simp) (.optional _ _ (by simp) ?_)) (by decide)
  exact .lastOptional _ _ (by simp)

theorem QuotaOffer.restrict_toJson (o : QuotaOffer) :
    (plain ["id", "name", "provider", "modes", "available", "free_per_day", "usage_today",
      "pricing", "free", "voucher", "charge_balance", "total_balance"]).restrict o.toJson =
      o.toJson := by
  refine Fits.restrict ?_ (by decide)
  have hmodes : Mode.names o.named.model.modes ≠ .null := by simp [Mode.names, Json.texts]
  refine .any (by simp) (.any (by simp) (.any (by simp) (.any hmodes ?_)))
  refine .any (by simp) (.any (by simp) (.any (by simp) (.any (by simp) ?_)))
  exact .left (.left (.left (.left .nil)))

theorem PricedOffer.restrict_toJson (balance : Option SiliconFlow.Balance) (o : PricedOffer) :
    (plain ["id", "name", "provider", "modes", "available", "free_per_day", "usage_today",
      "pricing", "free", "voucher", "charge_balance", "total_balance"]).restrict
        (o.toJson balance) = o.toJson balance := by
  refine Fits.restrict ?_ (by decide)
  have hmodes : Mode.names o.model.modes ≠ .null := by simp [Mode.names, Json.texts]
  refine .any (by simp) (.any (by simp) (.any (by simp) (.any hmodes ?_)))
  refine .any (by simp) (.left (.left (.any (by simp) (.any (by simp) (.any (by simp) ?_)))))
  exact .optional _ _ (by simp) (.lastOptional _ _ (by simp))

theorem Offers.restrict_toJson (o : Offers) : offers.restrict o.toJson = o.toJson := by
  refine Fits.restrict (.there (by simp) ?_ ?_) (by decide)
  · refine restrict_list fun j hj => ?_
    rcases List.mem_append.1 hj with hj | hj
    · obtain ⟨offer, -, rfl⟩ := List.mem_map.1 hj
      exact offer.restrict_toJson
    · obtain ⟨offer, -, rfl⟩ := List.mem_map.1 hj
      exact offer.restrict_toJson o.balance
  · exact .summary _ (.lastOptional _ _ (by simp))

theorem Recognition.Result.restrict_toJson (r : Recognition.Result) :
    recognition.restrict r.toJson = r.toJson := by
  unfold Recognition.Result.toJson
  rw [List.append_assoc, List.append_assoc]
  refine Fits.restrict (.any (by simp) (.any (by simp) ?_)) (by decide)
  exact .optional _ _ (by simp) (.optional _ _ (by simp) (.lastOptional _ _ (by simp)))

theorem Rest.Shape.restrict_saved (errors : List String) :
    saved.restrict (Reply.saved errors).toJson = (Reply.saved errors).toJson := by
  cases errors with
  | nil => exact Fits.restrict (.any (by simp) (.left .nil)) (by decide)
  | cons first others =>
    exact Fits.restrict (.any (by simp) (.any (by simp [Json.texts]) .nil)) (by decide)

theorem Rest.Shape.restrict_balance (b : Option SiliconFlow.Balance) :
    balance.restrict (Reply.balance b).toJson = (Reply.balance b).toJson := by
  cases b with
  | none => exact Fits.restrict (.left (.left (.left .nil))) (by decide)
  | some b =>
    exact Fits.restrict (.any (by simp) (.any (by simp) (.any (by simp) .nil))) (by decide)

namespace Rest

/-- The command of a route answers in the form of the route. -/
theorem restrict_of_run {r : Route} (hr : r ∈ routes) {body : Json} {w v : World} {reply : Reply}
    (hrun : exec (r.command body).run w = (.ok reply, v)) :
    r.shape.restrict reply.toJson = reply.toJson := by
  simp only [routes, List.mem_cons, List.not_mem_nil, or_false] at hr
  -- what a command ends with, once the steps in front of it are over
  have hends {α : Type} {a : Action α} {f : α → Reply} {u : World}
      (h : exec (do return f (← a)) u = (.ok reply, v)) : ∃ x, reply = f x := by
    obtain ⟨x, _, -, hdone⟩ := exec_bind_eq_ok h
    exact ⟨x, (Except.ok.inj (Prod.mk.inj hdone).1).symm⟩
  rcases hr with rfl | rfl | rfl | rfl | rfl | rfl | rfl | rfl
  · obtain ⟨_, _, -, hrest⟩ := exec_bind_eq_ok hrun
    obtain ⟨view, rfl⟩ := hends hrest
    exact view.restrict_toJson
  · obtain ⟨errors, rfl⟩ := hends hrun
    exact Shape.restrict_saved errors
  · obtain ⟨p, rfl⟩ := hends hrun
    exact p.restrict_toJson
  · obtain ⟨p, rfl⟩ := hends hrun
    exact p.restrict_toJson
  · obtain ⟨_, _, -, hrest⟩ := exec_bind_eq_ok hrun
    obtain ⟨o, rfl⟩ := hends hrest
    exact o.restrict_toJson
  · obtain ⟨_, _, -, hrest⟩ := exec_bind_eq_ok hrun
    obtain ⟨b, rfl⟩ := hends hrest
    exact Shape.restrict_balance b
  · obtain ⟨_, _, -, hrest⟩ := exec_bind_eq_ok hrun
    obtain ⟨found, rfl⟩ := hends hrest
    exact found.restrict_toJson
  · obtain ⟨ok, rfl⟩ := hends hrun
    rfl

end Rest

end FormulaOcr
