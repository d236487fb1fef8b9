import ChainIndex.Proofs.Address.Calls
import ChainIndex.Proofs.Storage.Site

/-!
# Where addresses come from

At a site that nobody else writes to, an address is stored only because a strand asked for it, whether the call that asked
was answered, failed or is still open (`inserts_of_lives`): no step of the world adds an address that its question does
not name, and the replies name the questions.
-/

namespace ChainIndex

open Storage Running

variable {w w' : Site} {node : FixedNode} {faulty : Prop} {space : AddressSpace} {a : String}

/-- A question that asks storage for an address. -/
def Query.Inserts (q : Query) (space : AddressSpace) (a : String) : Prop :=
  ∃ asked, q = .call (.insertAddresses space asked) ∧ a ∈ asked

theorem inserts_of_numbers {target : AddressSpace} {asked part : List String} {ids : AddressIds}
    (numbers : Numbers (w.ids target) part ids) (inside : part ⊆ asked) (present : a ∈ (w.setIds target ids).ids space) :
    a ∈ w.ids space ∨ Query.Inserts (.call (.insertAddresses target asked)) space a := by
  by_cases same : space = target
  · subst same
    have grown : a ∈ ids := by simpa [Site.setIds] using present
    exact (numbers.only grown).imp_right fun member => ⟨asked, rfl, inside member⟩
  · exact .inl (by simpa [Site.setIds, same] using present)

theorem inserts_of_answers {q : Query} {r : q.Answer} (answers : (site node faulty).answers w q r w')
    (present : a ∈ w'.ids space) : a ∈ w.ids space ∨ q.Inserts space a := by
  have idle (same : w' = w) : a ∈ w.ids space ∨ q.Inserts space a := .inl (same ▸ present)
  cases q with
  | request request =>
    cases request with
    | block height => exact idle answers.1
    | execution hash => exact idle answers.1
    | _ => exact idle answers
  | call c =>
    cases r with
    | error e => exact idle answers.2
    | ok result =>
      cases c with
      | find target asked => exact idle answers.1
      | insertAddresses target asked =>
        obtain ⟨ids, numbers, rfl⟩ := answers
        exact inserts_of_numbers numbers (List.Subset.refl _) present
      | insert b =>
        obtain rfl : w' = w.insert b.rows := answers
        exact .inl present
      | _ => exact idle answers
  | book ref step =>
    obtain ⟨-, rfl⟩ := answers
    exact .inl present
  | _ => exact idle answers

theorem inserts_of_drifts {q : Query} (drift : (site node faulty).Drifts q w w') (present : a ∈ w'.ids space) :
    a ∈ w.ids space ∨ q.Inserts space a := by
  induction drift with
  | refl => exact .inl present
  | tail _ step ih =>
    rcases step with others | works
    · exact others.elim
    cases q with
    | call c =>
      cases c with
      | insertAddresses target asked =>
        obtain ⟨part, inside, ids, numbers, rfl⟩ := works
        exact (inserts_of_numbers numbers inside present).elim ih .inr
      | insert b =>
        obtain ⟨part, -, rfl⟩ := works
        exact ih present
      | _ => exact works.elim
    | _ => exact works.elim

/-- **Where nobody else stores addresses** there are only those that were inserted. -/
theorem inserts_of_lives {β : Type} {b : β} {p : Strand β} {told : List Telling}
    (lives : p.Lives (site node faulty) w told w' b) (present : a ∈ w'.ids space) :
    a ∈ w.ids space ∨ ∃ asked r, insertion space asked r ∈ repliesIn told ∧ a ∈ asked := by
  induction lives with
  | done idle =>
    refine .inl ?_
    induction idle with
    | refl => exact present
    | tail _ others _ => exact others.elim
  | @ask q next w w₁ w₂ w' x told b drift answers rest ih =>
    have here (inserts : q.Inserts space a) :
        ∃ asked r, insertion space asked r ∈ repliesIn (⟨q, x⟩ :: told) ∧ a ∈ asked := by
      obtain ⟨asked, rfl, member⟩ := inserts
      exact ⟨asked, x, List.mem_cons_self, member⟩
    rcases ih present with early | ⟨asked, r, later, member⟩
    · rcases inserts_of_answers answers early with earlier | inserts
      · exact (inserts_of_drifts drift earlier).imp_right here
      · exact .inr (here inserts)
    · refine .inr ⟨asked, r, ?_, member⟩
      exact mem_repliesIn.2 (List.mem_cons_of_mem _ (mem_repliesIn.1 later))

end ChainIndex
