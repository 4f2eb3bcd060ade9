import MailHost.Proofs.RegisteredDomains
import MailHost.Proofs.Registry.Addition

/-!
# The registry file over a run

A session whose registry is a file keeps it at the same path, whatever is
asked, and everything in its tree stays in a directory: files are written, put
into the registry and taken away in directories only.  So at every point of a
run an addition that fails leaves the registry as it was, unless its file is
missing and cannot be made.
-/

namespace MailHost

open DomainName (isValid)

/-- The registry is the file at a path, in a tree in which everything is in a directory. -/
structure Storage.FiledAt (path : String) (storage : Storage) : Prop where
  keeping : storage.keeping = .file path
  nested : storage.tree.Nested

namespace Storage

variable {path : String} {storage : Storage}

theorem FiledAt.eq_ofFile (filed : storage.FiledAt path) :
    storage = ofFile ⟨path, storage.tree⟩ := by
  obtain ⟨keeping, tree⟩ := storage
  cases filed.keeping
  rfl

theorem FiledAt.add (filed : storage.FiledAt path) (domain : String) :
    (Registry.add storage domain).2.FiledAt path := by
  rw [filed.eq_ofFile, add_ofFile]
  constructor
  · exact congrArg Keeping.file (FileRegistry.add_path ⟨path, storage.tree⟩ domain)
  · exact FileRegistry.nested_add filed.nested domain

end Storage

namespace Faulty

variable {path : String} {registry later : Faulty Storage}

/-- An addition is made to fail, or it is one to the registry inside. -/
theorem add_cases (registry : Faulty Storage) (domain : String) :
    (Registry.add registry domain).2.inner = registry.inner ∨
      (Registry.add registry domain).1 = (Registry.add registry.inner domain).1 ∧
        (Registry.add registry domain).2.inner = (Registry.add registry.inner domain).2 := by
  rw [add_eq]
  split
  · exact Or.inl rfl
  · exact Or.inr ⟨rfl, rfl⟩

theorem filedAt_add (filed : registry.inner.FiledAt path) (domain : String) :
    (Registry.add registry domain).2.inner.FiledAt path := by
  rcases registry.add_cases domain with same | ⟨_, added⟩
  · rwa [same]
  · rw [added]
    exact filed.add domain

theorem filedAt_of_reached (reached : Registry.Reached registry later)
    (filed : registry.inner.FiledAt path) : later.inner.FiledAt path := by
  induction reached with
  | refl => exact filed
  | add reached domain ih => exact filedAt_add ih domain

end Faulty

namespace Session

variable {path : String}

/-- A request that is not about files keeps the registry a file at its path. -/
theorem filedAt_of_step {session next : Session} {request : Request}
    (step : Step session request next) (filed : session.storage.FiledAt path)
    (unfiled : ∀ asked, request ≠ .files asked) : next.storage.FiledAt path := by
  have started : session.registry.inner.FiledAt path := filed
  cases step with
  | configured asked =>
      exact Faulty.filedAt_of_reached
        (session.domains.configure_reached session.resolver session.environment _) started
  | added domain => exact Faulty.filedAt_add started domain
  | files asked tree => exact absurd rfl (unfiled asked)
  | _ => exact filed

theorem filedAt_turn (session : Session) (filed : session.storage.FiledAt path)
    (request : Request) : (session.turn request).session.storage.FiledAt path := by
  cases request with
  | files request =>
      cases request with
      | write place contents => exact ⟨filed.keeping, filed.nested.write place contents⟩
      | read place => exact filed
      | remove place => exact ⟨filed.keeping, filed.nested.remove place⟩
  | _ => exact filedAt_of_step (session.step_turn _) filed nofun

theorem filedAt_after (session : Session) (filed : session.storage.FiledAt path)
    (requests : List Request) : (session.after requests).storage.FiledAt path := by
  induction requests generalizing session with
  | nil => exact filed
  | cons request rest ih => exact ih _ (session.filedAt_turn filed request)

/--
At every point of a run, a request to add that fails changes no file, also when
it was made to fail.  What is listed and contained stays as it is, unless the
file of the registry is missing and cannot be made.
-/
theorem failed_addition_keeps_registry (session : Session)
    (filed : session.storage.FiledAt path) (straight : ".." ∉ FileTree.steps path)
    (requests : List Request) (domain : String) :
    let before := session.after requests
    let turn := before.turn (.registry (.add domain))
    let after := turn.session.storage
    turn.answer ≠ .done →
      (∀ place contents, after.tree.node? place = some (.file contents) ↔
        before.storage.tree.node? place = some (.file contents)) ∧
      (¬ (FileRegistry.mk path before.storage.tree).Unmakable →
        Registry.list after = Registry.list before.storage ∧
        ∀ other, Registry.contains after other = Registry.contains before.storage other) := by
  intro before turn after failed
  let registry := FileRegistry.mk path before.storage.tree
  have now := session.filedAt_after filed requests
  have whole : before.storage = Storage.ofFile registry := now.eq_ofFile
  have nested : registry.tree.Nested := now.nested
  have ending := registry.ending_add domain
  rcases before.registry.add_cases domain with same | ⟨result, added⟩
  · have kept : after = before.storage := same
    rw [kept]
    exact ⟨fun _ _ => Iff.rfl, fun _ => ⟨rfl, fun _ => rfl⟩⟩
  · change _ = (Registry.add before.storage domain).1 at result
    change after = (Registry.add before.storage domain).2 at added
    rw [whole, Storage.add_ofFile] at result added
    have refused : (Registry.add registry domain).1 ≠ .ok () := by
      intro ok
      refine failed ?_
      change Answer.ofExcept .registry _ (Registry.add before.registry domain).1 = _
      rw [result, ok]
      rfl
    refine ⟨?_, ?_⟩
    · rw [added]
      exact ending.file_iff_of_failed refused
    · intro makable
      have listed : Registry.list after = Registry.list before.storage := by
        rw [added, whole]
        exact FileRegistry.list_of_same_read
          (ending.read_of_failed nested straight refused fun both => makable both.2)
      refine ⟨listed, ?_⟩
      intro other
      rw [LawfulRegistry.contains_eq, LawfulRegistry.contains_eq, listed]

end Session

end MailHost
