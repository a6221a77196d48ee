import FormulaOcr.Proofs.Recognition.Offers

/-! What is shown of the settings: the balance that was fetched with the key of the store, and the
vouchers that stand in the store. -/

namespace FormulaOcr

open FormulaOcr.Action FormulaOcr.Recognition

/-- The vouchers in the store of a process. -/
def World.storedVouchers (w : World) : List String :=
  (w.store.getD ⟨⟨"", []⟩, []⟩).texts Store.vouchersName

variable {w v : World} {view : SettingsView} {reply : Reply}

/-- A view of the settings that came about shows a balance that was fetched at once, and the
vouchers of the store. -/
theorem runGetSettings_eq_ok (h : exec Command.runGetSettings w = (.ok view, v)) :
    (∃ u, exec (SiliconFlow.fetchBalance w.storedKey) w = (.ok view.balance, u)) ∧
      view.vouchers = w.storedVouchers := by
  have hreads := reads_settings w.configuration w.store
  have hkept {α : Type} {a : Action α} {u u' : World} {x : α}
      (ha : Agrees (Only fun y => y.configuration = w.configuration ∧ y.store = w.store) a)
      (hu : u.configuration = w.configuration ∧ u.store = w.store)
      (hexec : exec a u = (.ok x, u')) :
      u'.configuration = w.configuration ∧ u'.store = w.store := by
    have hafter := agrees_only.1 ha u hu
    rwa [hexec] at hafter
  unfold Command.runGetSettings at h
  rw [exec_bind_ok (exec_storedKey w)] at h
  obtain ⟨balance, u, hbalance, h⟩ := exec_bind_eq_ok h
  have hu := hkept (hreads.fetchBalance w.storedKey) ⟨rfl, rfl⟩ hbalance
  obtain ⟨token, u₁, htoken, h⟩ := exec_bind_eq_ok h
  obtain ⟨model, u₂, hmodel, h⟩ := exec_bind_eq_ok h
  obtain ⟨models, u₃, hmodels, h⟩ := exec_bind_eq_ok h
  obtain ⟨usage, u₄, husage, h⟩ := exec_bind_eq_ok h
  have hlast := hkept (hreads.usageByModel _) (hkept hreads.namedModels (hkept
    (hreads.storedText _) (hkept (hreads.storedText _) hu htoken) hmodel) hmodels) husage
  have hvouchers : exec (storedTexts Store.vouchersName) u₄ = (.ok w.storedVouchers, u₄) := by
    rw [World.storedVouchers, ← hlast.2]
    rfl
  rw [exec_bind_ok hvouchers] at h
  obtain ⟨hview, -⟩ := Prod.mk.inj h
  rw [← Except.ok.inj hview]
  exact ⟨⟨u, hbalance⟩, rfl⟩

/-- Choosing the counters changes neither the settings nor what the network holds ready. -/
theorem exec_counterPath_readied {α : Type} {f : PUnit → Action α} {x : α}
    (h : exec (discard counterPath >>= f) w = (.ok x, v)) :
    ∃ u, w.Readied u ∧ exec (f PUnit.unit) u = (.ok x, v) := by
  obtain ⟨_, u, hpath, hrest⟩ := exec_bind_eq_ok h
  have hcounters : Agrees (Only w.Readied) counterPath := by
    refine agrees_counterPath_of ?_
    rintro _ d p ⟨_, _, kept, rfl⟩
    exact ⟨d, p, kept, rfl⟩
  have hreadied := agrees_only.1 hcounters.discard w (World.Readied.refl w)
  rw [hpath] at hreadied
  exact ⟨u, hreadied, hrest⟩

/-- Settings that are answered are a view of them as they stand in the store. -/
theorem exec_getSettings_eq_ok (h : exec Command.getSettings.run w = (.ok reply, v)) :
    ∃ view, reply = .settings view ∧ view.vouchers = w.storedVouchers ∧
      ∃ u x, w.Readied u ∧
        exec (SiliconFlow.fetchBalance w.storedKey) u = (.ok view.balance, x) := by
  obtain ⟨_, ⟨d, p, kept, rfl⟩, h⟩ := exec_counterPath_readied h
  obtain ⟨view, _, hview, h⟩ := exec_bind_eq_ok h
  obtain ⟨⟨x, hfetched⟩, hvouchers⟩ := runGetSettings_eq_ok hview
  exact ⟨view, (Except.ok.inj (congrArg Prod.fst h)).symm, hvouchers, _, x, ⟨d, p, kept, rfl⟩,
    hfetched⟩

/-- The answer that shows the settings shows the vouchers of the store. -/
theorem SettingsView.member_vouchers (view : SettingsView) :
    view.toJson.member "voucher_models" = .texts view.vouchers := by
  cases hbalance : view.balance <;> simp [toJson, hbalance] <;> rfl

end FormulaOcr
