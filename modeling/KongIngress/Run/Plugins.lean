/-
**`ConfigurePluginsForAPI` against a gateway that answers from its state.**

* `decodePlugins` — the plugins of the `kolihub.io/plugin-<name>` annotations, decoded in
  visiting order up to the first that fails, with that failure.
* `exec_configurePlugins` — the loop attaches exactly the decoded plugins that are not attached
  yet (`pluginsCreated`), and returns the first failure. Plugin names are distinct because the
  annotation keys are (`decodePlugins_names_nodup`).
* `configurePluginsForAPI_any_order` — two visiting orders of one annotation map agree on
  whether the loop fails, and when it does not they create the same plugins; in each order the
  plugins created are those decoded before the first bad annotation.
* `configurePluginsForAPI_order_matters` — a valid and an unknown plugin annotation: one order
  creates the valid plugin before failing, the other fails first and creates nothing.
-/

import KongIngress.Controller.Configure
import KongIngress.Model.World

namespace KongIngress

/-! ### Strings with a prefix -/

theorem eq_append_trimPrefix {s pre : String} (prefixed : hasPrefix s pre = true) :
    s = pre ++ trimPrefix s pre := by
  obtain ⟨rest, split⟩ := (List.isPrefixOf_iff_prefix).mp prefixed
  have data : s.data = pre.data ++ rest := split.symm
  apply String.ext
  simp only [trimPrefix, prefixed, if_true, String.data_append, String.toList, String.length,
    data, List.drop_left]

theorem trimPrefix_inj {a b pre : String} (prefixedA : hasPrefix a pre = true)
    (prefixedB : hasPrefix b pre = true) (same : trimPrefix a pre = trimPrefix b pre) : a = b := by
  rw [eq_append_trimPrefix prefixedA, eq_append_trimPrefix prefixedB, same]

/-! ### Attaching plugins -/

namespace Gateway

/-- Attach plugins to the API of an id, in order. -/
def attachPlugins (gateway : Gateway) (uid : Nat) (plugins : List Plugin) : Gateway :=
  { gateway with plugins := gateway.plugins ++ plugins.map (uid, ·) }

@[simp] theorem attachPlugins_nil (gateway : Gateway) (uid : Nat) :
    gateway.attachPlugins uid [] = gateway := by
  simp [attachPlugins]

theorem createPlugin_eq (gateway : Gateway) (uid : Nat) (plugin : Plugin) :
    gateway.createPlugin uid plugin = gateway.attachPlugins uid [plugin] := rfl

@[simp] theorem attachPlugins_attachPlugins (gateway : Gateway) (uid : Nat)
    (first second : List Plugin) :
    (gateway.attachPlugins uid first).attachPlugins uid second =
      gateway.attachPlugins uid (first ++ second) := by
  simp [attachPlugins]

@[simp] theorem listPlugins_attachPlugins (gateway : Gateway) (uid : Nat) (plugins : List Plugin) :
    (gateway.attachPlugins uid plugins).listPlugins uid = gateway.listPlugins uid ++ plugins := by
  simp [attachPlugins, listPlugins, List.filter_map, Function.comp_def]

end Gateway

namespace KongController

variable (k : KongController)

/-! ### Decoding the plugin annotations -/

/-- The plugins of the plugin annotations, decoded in visiting order up to the first failure,
and that failure. -/
def decodePlugins (ing : Ingress) : List (String × String) → List Plugin × Option String
  | [] => ([], none)
  | entry :: rest =>
    if hasPrefix entry.1 pluginPrefix then
      match k.decodePlugin ing entry.1 entry.2 with
      | .error err => ([], some err)
      | .ok plugin => (plugin :: (decodePlugins ing rest).1, (decodePlugins ing rest).2)
    else decodePlugins ing rest

/-- The plugins `ConfigurePluginsForAPI` creates on a gateway: those decoded before the first
bad annotation that are not attached to the API yet. -/
def pluginsCreated (gateway : Gateway) (uuid : Nat) (ing : Ingress) : List Plugin :=
  (k.decodePlugins ing ing.annotations).1.filter
    fun plugin => !(gateway.listPlugins uuid).any (·.name == plugin.name)

theorem decodePlugin_name {ing : Ingress} {a value : String} {plugin : Plugin}
    (decoded : k.decodePlugin ing a value = .ok plugin) : plugin.name = trimPrefix a pluginPrefix := by
  dsimp only [decodePlugin, Except.map] at decoded
  split at decoded
  · cases decoded
  · split at decoded
    · cases decoded
    · cases decoded
      rfl

/-- A decoded plugin is named after a plugin annotation of the list. -/
theorem mem_decodePlugins {ing : Ingress} {entries : List (String × String)} {plugin : Plugin}
    (member : plugin ∈ (k.decodePlugins ing entries).1) :
    ∃ entry ∈ entries, hasPrefix entry.1 pluginPrefix = true ∧
      plugin.name = trimPrefix entry.1 pluginPrefix := by
  induction entries with
  | nil => cases member
  | cons entry rest ih =>
    unfold decodePlugins at member
    split_ifs at member with prefixed
    · split at member
      · cases member
      · rename_i decoded
        rcases List.mem_cons.mp member with rfl | later
        · exact ⟨entry, List.mem_cons_self _ _, prefixed, k.decodePlugin_name decoded⟩
        · obtain ⟨found, mem, rest⟩ := ih later
          exact ⟨found, List.mem_cons_of_mem _ mem, rest⟩
    · obtain ⟨found, mem, rest⟩ := ih member
      exact ⟨found, List.mem_cons_of_mem _ mem, rest⟩

/-- **Distinct annotation keys give distinctly named plugins.** -/
theorem decodePlugins_names_nodup (ing : Ingress) {entries : List (String × String)}
    (keys : (entries.map Prod.fst).Nodup) : ((k.decodePlugins ing entries).1.map Plugin.name).Nodup := by
  induction entries with
  | nil => exact List.nodup_nil
  | cons entry rest ih =>
    rw [List.map_cons, List.nodup_cons] at keys
    unfold decodePlugins
    split_ifs with prefixed
    · split
      · exact List.nodup_nil
      · rename_i plugin decoded
        refine List.nodup_cons.mpr ⟨fun member => ?_, ih keys.2⟩
        obtain ⟨other, found, same⟩ := List.mem_map.mp member
        obtain ⟨entry', mem, prefixed', named⟩ := k.mem_decodePlugins found
        rw [same, k.decodePlugin_name decoded] at named
        exact keys.1 (trimPrefix_inj prefixed prefixed' named ▸ List.mem_map_of_mem _ mem)
    · exact ih keys.2

/-- The loop fails exactly when some plugin annotation does not decode. -/
theorem decodePlugins_snd_eq_none (ing : Ingress) (entries : List (String × String)) :
    (k.decodePlugins ing entries).2 = none ↔
      ∀ entry ∈ entries, hasPrefix entry.1 pluginPrefix = true →
        ∃ plugin, k.decodePlugin ing entry.1 entry.2 = .ok plugin := by
  induction entries with
  | nil => simp [decodePlugins]
  | cons entry rest ih =>
    unfold decodePlugins
    split_ifs with prefixed
    · split <;> rename_i decoded <;> simp [ih, prefixed, decoded]
    · simp [ih, prefixed]

/-- When every plugin annotation decodes, the decoded plugins are those of all of them. -/
theorem decodePlugins_fst_of_none (ing : Ingress) (entries : List (String × String))
    (clean : (k.decodePlugins ing entries).2 = none) :
    (k.decodePlugins ing entries).1 = entries.filterMap fun entry =>
      if hasPrefix entry.1 pluginPrefix then (k.decodePlugin ing entry.1 entry.2).toOption
      else none := by
  induction entries with
  | nil => rfl
  | cons entry rest ih =>
    unfold decodePlugins at clean ⊢
    split_ifs at clean ⊢ with prefixed
    · cases decoded : k.decodePlugin ing entry.1 entry.2 <;> simp only [decoded] at clean ⊢
      · cases clean
      · simp [List.filterMap_cons, prefixed, decoded, Except.toOption, ih clean]
    · simp [List.filterMap_cons, prefixed, ih clean]

/-! ### The loop -/

/-- A decoded plugin does not depend on which ingress the error message would name. -/
theorem decodePlugin_eq_ok_iff (ing ing' : Ingress) (a value : String) (plugin : Plugin) :
    k.decodePlugin ing a value = .ok plugin ↔ k.decodePlugin ing' a value = .ok plugin := by
  cases schema : pluginSchema (trimPrefix a pluginPrefix) <;> simp [decodePlugin, schema]

theorem run_ensurePlugin (world : World) (uuid : Nat) (plugin : Plugin) :
    (ensurePlugin uuid plugin).run World.answer world =
      (.ok (), if (world.gateway.listPlugins uuid).any (·.name == plugin.name) then world
        else { world with gateway := world.gateway.attachPlugins uuid [plugin] }) := by
  simp only [ensurePlugin, Prog.bind_eq, Prog.send_bind, Prog.run_call, World.answer_listPlugins]
  split_ifs <;> rfl

/-- **The plugin loop against the store**: it attaches the decoded plugins that are not attached
yet, in order, and returns the first failure. -/
theorem run_configurePlugins (world : World) (uuid : Nat) (ing : Ingress)
    (entries : List (String × String))
    (distinct : ((k.decodePlugins ing entries).1.map Plugin.name).Nodup) :
    (Prog.forEach entries (k.configurePlugin uuid ing)).run World.answer world =
      ((k.decodePlugins ing entries).2.elim (.ok ()) .error,
        { world with
          gateway := world.gateway.attachPlugins uuid ((k.decodePlugins ing entries).1.filter
            fun plugin => !(world.gateway.listPlugins uuid).any (·.name == plugin.name)) }) := by
  induction entries generalizing world with
  | nil => simp [decodePlugins]
  | cons entry rest ih =>
    unfold decodePlugins at distinct ⊢
    rw [Prog.forEach_cons, configurePlugin]
    by_cases prefixed : hasPrefix entry.1 pluginPrefix = true
    · simp only [prefixed, if_true] at distinct ⊢
      cases decoded : k.decodePlugin ing entry.1 entry.2 with
      | error err => simp
      | ok plugin =>
        simp only [decoded, List.map_cons, List.nodup_cons] at distinct ⊢
        rw [Prog.run_bind, run_ensurePlugin]
        split_ifs with attached
        · simp only [ih world distinct.2, List.filter_cons, attached, Bool.not_true]
          rfl
        · simp only [ih _ distinct.2, Gateway.listPlugins_attachPlugins, List.filter_cons,
            attached, Bool.not_false, if_true, Gateway.attachPlugins_attachPlugins,
            List.singleton_append]
          congr 4
          refine List.filter_congr fun other member => ?_
          have differ : other.name ≠ plugin.name := fun same =>
            distinct.1 (same ▸ List.mem_map_of_mem _ member)
          simp [List.any_append, Ne.symm differ]
    · simp only [prefixed, if_false, Prog.pure_eq, Prog.pure_bind] at distinct ⊢
      exact ih world distinct

/-- `ConfigurePluginsForAPI` against the store: the plugins created are `pluginsCreated`. -/
theorem run_configurePluginsForAPI (world : World) (uuid : Nat) (ing : Ingress) :
    (k.configurePluginsForAPI uuid ing).run World.answer world =
      ((k.decodePlugins ing ing.annotations).2.elim (.ok ()) .error,
        { world with
          gateway := world.gateway.attachPlugins uuid (k.pluginsCreated world.gateway uuid ing) }) :=
  k.run_configurePlugins world uuid ing _ (k.decodePlugins_names_nodup ing ing.annotations_nodup)

/-- **Visiting order.** Two visiting orders of one annotation map agree on whether
`ConfigurePluginsForAPI` fails; when it does not, they attach the same plugins; and in each order
the plugins created are those decoded before the first bad annotation and not attached yet. -/
theorem configurePluginsForAPI_any_order (world : World) (uuid : Nat) (ing₁ ing₂ : Ingress)
    (reordered : ing₁.annotations.Perm ing₂.annotations) :
    (((k.configurePluginsForAPI uuid ing₁).run World.answer world).1 = .ok () ↔
        ((k.configurePluginsForAPI uuid ing₂).run World.answer world).1 = .ok ()) ∧
      (((k.configurePluginsForAPI uuid ing₁).run World.answer world).1 = .ok () →
        ((k.configurePluginsForAPI uuid ing₁).run World.answer world).2.gateway.plugins.Perm
          ((k.configurePluginsForAPI uuid ing₂).run World.answer world).2.gateway.plugins) ∧
      ((k.configurePluginsForAPI uuid ing₁).run World.answer world).2 =
        { world with
          gateway := world.gateway.attachPlugins uuid (k.pluginsCreated world.gateway uuid ing₁) } := by
  have okIff : ∀ ing : Ingress, ((k.configurePluginsForAPI uuid ing).run World.answer world).1 =
      .ok () ↔ (k.decodePlugins ing ing.annotations).2 = none := fun ing => by
    rw [run_configurePluginsForAPI]
    cases (k.decodePlugins ing ing.annotations).2 <;> simp
  have sameOutcome := (okIff ing₁).trans <| (k.decodePlugins_snd_eq_none _ _).trans <|
    Iff.trans (by
      simp only [reordered.mem_iff, k.decodePlugin_eq_ok_iff ing₁ ing₂]) <|
    (k.decodePlugins_snd_eq_none _ _).symm.trans (okIff ing₂).symm
  refine ⟨sameOutcome, fun ok => ?_, by rw [run_configurePluginsForAPI]⟩
  have decodedAlike : (fun entry : String × String => if hasPrefix entry.1 pluginPrefix then
        (k.decodePlugin ing₂ entry.1 entry.2).toOption else none) =
      fun entry => if hasPrefix entry.1 pluginPrefix then
        (k.decodePlugin ing₁ entry.1 entry.2).toOption else none := by
    funext entry
    split_ifs
    · cases decoded : k.decodePlugin ing₁ entry.1 entry.2 with
      | ok plugin => simp [(k.decodePlugin_eq_ok_iff ing₁ ing₂ _ _ plugin).mp decoded, decoded,
          Except.toOption]
      | error err =>
        cases decoded' : k.decodePlugin ing₂ entry.1 entry.2 with
        | ok plugin => simp [(k.decodePlugin_eq_ok_iff ing₁ ing₂ _ _ plugin).mpr decoded'] at decoded
        | error err' => rfl
    · rfl
  rw [run_configurePluginsForAPI, run_configurePluginsForAPI]
  simp only [pluginsCreated, Gateway.attachPlugins,
    k.decodePlugins_fst_of_none _ _ ((okIff ing₁).mp ok),
    k.decodePlugins_fst_of_none _ _ ((okIff ing₂).mp (sameOutcome.mp ok)), decodedAlike]
  exact List.Perm.append_left _ (((reordered.filterMap _).filter _).map _)

end KongController

/-- An ingress whose map holds a `cors` and a `key-auth` plugin annotation, both valid, visited
in that order. -/
def corsThenKeyAuth : Ingress where
  ns := "app"
  name := "web"
  resourceVersion := 1
  annotations := [("kolihub.io/plugin-cors", "{}"), ("kolihub.io/plugin-key-auth", "{}")]
  spec := ⟨[], []⟩

/-- `corsThenKeyAuth`'s map, visited from the `key-auth` annotation. -/
def keyAuthThenCors : Ingress :=
  { corsThenKeyAuth with
    annotations := [("kolihub.io/plugin-key-auth", "{}"), ("kolihub.io/plugin-cors", "{}")]
    annotations_nodup := by decide }

/-- Both orders of two valid plugin annotations return nil and attach both plugins. -/
theorem configurePluginsForAPI_any_order_valid :
    corsThenKeyAuth.annotations.Perm keyAuthThenCors.annotations ∧
      ((KongController.standard.configurePluginsForAPI 1 corsThenKeyAuth).run World.answer
          World.empty).1 = .ok () ∧
      ((((KongController.standard.configurePluginsForAPI 1 corsThenKeyAuth).run World.answer
          World.empty).1 = .ok () ↔
        ((KongController.standard.configurePluginsForAPI 1 keyAuthThenCors).run World.answer
          World.empty).1 = .ok ()) ∧
      (((KongController.standard.configurePluginsForAPI 1 corsThenKeyAuth).run World.answer
          World.empty).1 = .ok () →
        ((KongController.standard.configurePluginsForAPI 1 corsThenKeyAuth).run World.answer
          World.empty).2.gateway.plugins.Perm
        ((KongController.standard.configurePluginsForAPI 1 keyAuthThenCors).run World.answer
          World.empty).2.gateway.plugins) ∧
      ((KongController.standard.configurePluginsForAPI 1 corsThenKeyAuth).run World.answer World.empty).2 =
        { World.empty with
          gateway := World.empty.gateway.attachPlugins 1
            (KongController.standard.pluginsCreated World.empty.gateway 1 corsThenKeyAuth) }) :=
  have reordered : corsThenKeyAuth.annotations.Perm keyAuthThenCors.annotations := by decide
  have returnsNil : ((KongController.standard.configurePluginsForAPI 1 corsThenKeyAuth).run World.answer
      World.empty).1 = .ok () := by decide
  ⟨reordered, returnsNil, KongController.standard.configurePluginsForAPI_any_order World.empty 1
    corsThenKeyAuth keyAuthThenCors reordered⟩

/-- The two orders attach the same two plugins, in their visiting orders. -/
example :
    ((KongController.standard.configurePluginsForAPI 1 corsThenKeyAuth).run World.answer
      World.empty).2.gateway.plugins = [(1, ⟨"cors", "{}"⟩), (1, ⟨"key-auth", "{}"⟩)] ∧
    ((KongController.standard.configurePluginsForAPI 1 keyAuthThenCors).run World.answer
      World.empty).2.gateway.plugins = [(1, ⟨"key-auth", "{}"⟩), (1, ⟨"cors", "{}"⟩)] := by
  decide

/-- An ingress whose map holds a `cors` plugin annotation and an unknown `foo` one, visited in
that order. -/
def corsThenFoo : Ingress where
  ns := "app"
  name := "web"
  resourceVersion := 1
  annotations := [("kolihub.io/plugin-cors", "{}"), ("kolihub.io/plugin-foo", "{}")]
  spec := ⟨[], []⟩

/-- `corsThenFoo`'s map, visited from the `foo` annotation. -/
def fooThenCors : Ingress :=
  { corsThenFoo with
    annotations := [("kolihub.io/plugin-foo", "{}"), ("kolihub.io/plugin-cors", "{}")]
    annotations_nodup := by decide }

/-- **The order decides what is created before the failure.** Visiting `cors` first attaches
it and then fails on `foo`; visiting `foo` first fails with nothing attached. -/
theorem configurePluginsForAPI_order_matters :
    corsThenFoo.annotations.Perm fooThenCors.annotations ∧
      ((KongController.standard.configurePluginsForAPI 1 corsThenFoo).run World.answer
        World.empty).2.gateway.plugins = [(1, ⟨"cors", "{}"⟩)] ∧
      ((KongController.standard.configurePluginsForAPI 1 fooThenCors).run World.answer
        World.empty).2.gateway.plugins = [] := by
  decide

end KongIngress
