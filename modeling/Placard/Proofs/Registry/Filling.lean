import Mathlib.Data.List.Basic
import Placard.Command.Context
import Placard.Proofs.Registry.Sound

/-! Filling in secrets: what it leaves alone, and how many connections it helps. -/

namespace Placard

namespace Connection

/-- Only a connection that is let in by a secret and has none needs one. -/
theorem needsSecret_iff {connection : Connection} :
    connection.needsSecret = true ↔ connection.auth ≠ .none ∧ connection.secret = "" := by
  simp [needsSecret]

/-- A connection keeps all but its secret when it is filled. -/
theorem filled_rest (lookup : String → Option String) (connection : Connection) :
    { connection.filled lookup with secret := connection.secret } = connection := by
  unfold filled
  split
  · split <;> rfl
  · rfl

/-- A connection keeps its location when it is filled. -/
theorem filled_url (lookup : String → Option String) (connection : Connection) :
    (connection.filled lookup).url = connection.url := by
  have kept := congrArg Connection.url (filled_rest lookup connection)
  exact kept

/-- A connection that needs no secret, or for which none is found, is left as it is. -/
theorem filled_eq_self {lookup : String → Option String} {connection : Connection}
    (settled : connection.needsSecret = false ∨ lookup connection.name = none) :
    connection.filled lookup = connection := by
  unfold filled
  split
  · rename_i needs
    rcases settled with needless | missing
    · exact absurd needs (by simp [needless])
    · rw [missing]
  · rfl

/-- A connection that needs a secret takes the one that is found for its name. -/
theorem filled_of_found {lookup : String → Option String} {connection : Connection} {secret : String}
    (needs : connection.needsSecret = true) (found : lookup connection.name = some secret) :
    connection.filled lookup = { connection with secret := secret } := by
  rw [filled, if_pos needs, found]

/-- Look-ups that find the same for the name of a connection fill it alike. -/
theorem filled_congr {lookup lookup' : String → Option String} {connection : Connection}
    (same : lookup' connection.name = lookup connection.name) :
    connection.filled lookup' = connection.filled lookup := by
  rw [filled, filled, same]

/-- A connection still needs a secret when it did before and no text was found, or an empty one. -/
theorem needsSecret_filled (lookup : String → Option String) (connection : Connection) :
    (connection.filled lookup).needsSecret =
      (connection.needsSecret && (lookup connection.name).getD "" == "") := by
  by_cases needs : connection.needsSecret = true
  · cases found : lookup connection.name with
    | none => simp [filled_eq_self (.inr found), needs]
    | some secret =>
      -- How it is let in stays, so that only the new secret counts.
      rw [filled_of_found needs found]
      simp [needsSecret, needsSecret_iff.mp needs]
  · rw [Bool.not_eq_true] at needs
    rw [filled_eq_self (.inl needs), needs, Bool.false_and]

/-- The text that is found for a connection in need is the empty one. -/
def findsEmpty (lookup : String → Option String) (connection : Connection) : Bool :=
  connection.needsSecret && lookup connection.name == some ""

/-- Filling ends the need of a connection. -/
def helped (lookup : String → Option String) (connection : Connection) : Bool :=
  connection.needsSecret && !(connection.filled lookup).needsSecret

/-- Filling a connection twice comes to filling it once. -/
theorem filled_filled (lookup : String → Option String) (connection : Connection) :
    (connection.filled lookup).filled lookup = connection.filled lookup := by
  by_cases needs : connection.needsSecret = true
  · cases found : lookup connection.name with
    | none => rw [filled_eq_self (.inr found), filled_eq_self (.inr found)]
    | some secret =>
      rw [filled_of_found needs found]
      -- Under the same name the same secret is found again, whether it is needed or not.
      cases again : Connection.needsSecret { connection with secret := secret } with
      | true => exact filled_of_found again found
      | false => exact filled_eq_self (.inl again)
  · rw [Bool.not_eq_true] at needs
    rw [filled_eq_self (.inl needs), filled_eq_self (.inl needs)]

/-- A secret is found for a filled connection in need when the one found before was empty. -/
theorem canFill_filled (lookup : String → Option String) (connection : Connection) :
    (connection.filled lookup).canFill lookup = connection.findsEmpty lookup := by
  rw [canFill, findsEmpty, needsSecret_filled, Registry.filled_name, Bool.and_assoc]
  cases lookup connection.name <;> simp

/-- A secret that is found helps a connection, unless it is empty. -/
theorem canFill_and_not_findsEmpty (lookup : String → Option String) (connection : Connection) :
    (connection.canFill lookup && !connection.findsEmpty lookup) = connection.helped lookup := by
  rw [canFill, findsEmpty, helped, needsSecret_filled]
  cases connection.needsSecret <;> cases lookup connection.name <;> simp

/-- An empty secret is one that is found. -/
theorem canFill_and_findsEmpty (lookup : String → Option String) (connection : Connection) :
    (connection.canFill lookup && connection.findsEmpty lookup) = connection.findsEmpty lookup := by
  rw [canFill, findsEmpty]
  cases connection.needsSecret <;> cases lookup connection.name <;> simp

end Connection

namespace Registry

/-- The connections of a filled registry are those of the registry, each filled where it stands. -/
theorem toList_fill (lookup : String → Option String) (registry : Registry) :
    (registry.fill lookup).1.toList = registry.toList.map (·.filled lookup) := by
  simp [fill, mapConnections, toList, Function.comp_def]

/-- Filling leaves the names alone under which connections are filed. -/
theorem names_fill (lookup : String → Option String) (registry : Registry) :
    (registry.fill lookup).1.names = registry.names := by
  simp [fill, mapConnections, names, Function.comp_def]

/-- Filling changes nothing but secrets that are missing and found, each by what its own name finds.

What becomes of a connection is the same in every other registry that holds it, at whatever place
and whatever the look-up finds for other names. -/
theorem fill_framed (lookup : String → Option String) (registry : Registry) :
    let next := (registry.fill lookup).1
    next.names = registry.names ∧ next.toList.length = registry.toList.length ∧
    ∀ (place : Nat) (connection : Connection), registry.toList[place]? = some connection →
      ∃ after, next.toList[place]? = some after ∧
        { after with secret := connection.secret } = connection ∧
        (connection.auth = .none ∨ connection.secret ≠ "" ∨ lookup connection.name = none →
          after = connection) ∧
        (∀ secret, connection.auth ≠ .none → connection.secret = "" →
          lookup connection.name = some secret → after.secret = secret) ∧
        ∀ (other : Registry) (lookup' : String → Option String) (there : Nat),
          other.toList[there]? = some connection → lookup' connection.name = lookup connection.name →
            (other.fill lookup').1.toList[there]? = some after := by
  intro next
  have filled : next.toList = registry.toList.map (·.filled lookup) := toList_fill lookup registry
  refine ⟨names_fill lookup registry, by rw [filled, List.length_map], fun place connection held => ?_⟩
  refine ⟨connection.filled lookup, by rw [filled, List.getElem?_map, held, Option.map_some],
    connection.filled_rest lookup, fun settled => Connection.filled_eq_self ?_,
    fun secret closed missing found => ?_, fun other lookup' there also same => ?_⟩
  · -- Without need nothing is looked up at all.
    rw [← or_assoc] at settled
    refine settled.imp_left fun content => ?_
    rw [← Bool.not_eq_true, Connection.needsSecret_iff]
    exact fun ⟨closed, missing⟩ => content.elim closed fun present => present missing
  · have needs := Connection.needsSecret_iff.mpr ⟨closed, missing⟩
    rw [Connection.filled_of_found needs found]
  · rw [toList_fill, List.getElem?_map, also, Option.map_some, Connection.filled_congr same]

/-- A connection with a secret, one that finds one, also apart from the others, and one that finds none. -/
theorem fill_framed_mixed :
    let lookup := fun name => if name = "lost" then none else some (name ++ "-secret")
    let kept : Connection := { name := "kept", auth := .bearer, secret := "own" }
    let token : Connection := { name := "token", auth := .bearer }
    let lost : Connection := { name := "lost", auth := .basic }
    let next := ((ofList [kept, token, lost]).fill lookup).1
    next.names = ["kept", "token", "lost"] ∧ next.toList[0]? = some kept ∧
      (∃ after, next.toList[1]? = some after ∧ after.secret = "token-secret" ∧
        ((ofList [token]).fill lookup).1.toList[0]? = some after) ∧
      next.toList[2]? = some lost := by
  intro lookup kept token lost next
  obtain ⟨named, -, each⟩ := fill_framed lookup (ofList [kept, token, lost])
  obtain ⟨first, held, -, own, -⟩ := each 0 kept (by decide +kernel)
  obtain ⟨second, given, -, -, taken, apart⟩ := each 1 token (by decide +kernel)
  obtain ⟨third, left, -, same, -⟩ := each 2 lost (by decide +kernel)
  refine ⟨named.trans (by decide +kernel), ?_, ⟨second, given, ?_, ?_⟩, ?_⟩
  · rw [← own (.inr (.inl (by decide)))]
    exact held
  · exact taken "token-secret" (by decide) rfl (by decide)
  · exact apart (ofList [token]) lookup 0 (by decide +kernel) rfl
  · rw [← same (.inr (.inr rfl))]
    exact left

/-- The connections that a filling helps are those that need a secret before it and none after it. -/
theorem countP_zip_fill (lookup : String → Option String) (registry : Registry) :
    ((registry.toList.zip (registry.fill lookup).1.toList).countP fun (before, after) =>
      before.needsSecret && !after.needsSecret) = registry.toList.countP (·.helped lookup) := by
  rw [toList_fill, ← List.map_prod_left_eq_zip, List.countP_map]
  rfl

/-- A filling counts the connections that it helps, and those that find an empty secret. -/
theorem fill_count (lookup : String → Option String) (registry : Registry) :
    (registry.fill lookup).2 =
      registry.toList.countP (·.helped lookup) + registry.toList.countP (·.findsEmpty lookup) := by
  have all : (registry.fill lookup).2 = registry.toList.countP (·.canFill lookup) :=
    List.countP_eq_length_filter.symm
  -- Of the connections that find a secret, those with an empty one are told apart.
  rw [all, List.countP_eq_countP_filter_add _ _ (·.findsEmpty lookup), List.countP_filter,
    List.countP_filter, Nat.add_comm]
  congr 1
  · refine List.countP_congr fun connection _ => ?_
    simp [← Connection.canFill_and_not_findsEmpty]
  · refine List.countP_congr fun connection _ => ?_
    rw [Connection.canFill_and_findsEmpty]

/-- A second filling changes nothing, and counts the connections that find an empty secret. -/
theorem fill_fill (lookup : String → Option String) (registry : Registry) :
    (registry.fill lookup).1.fill lookup =
      ((registry.fill lookup).1, registry.toList.countP (·.findsEmpty lookup)) := by
  refine Prod.ext ?_ ?_
  · simp [fill, mapConnections, Function.comp_def, Connection.filled_filled]
  · have all : ((registry.fill lookup).1.fill lookup).2 =
        (registry.fill lookup).1.toList.countP (·.canFill lookup) := List.countP_eq_length_filter.symm
    rw [all, toList_fill, List.countP_map]
    exact List.countP_congr fun connection _ => by
      rw [Function.comp_apply, Connection.canFill_filled]

/-- The count of a filling is of all connections for which a secret is found, an empty one included.

So it is the number of those that it helps, and a second filling counts none, exactly where no
connection in need finds an empty secret. A second filling never changes anything. -/
theorem fill_counted (lookup : String → Option String) (registry : Registry) :
    let next := (registry.fill lookup).1
    let count := (registry.fill lookup).2
    let helped := (registry.toList.zip next.toList).countP fun (before, after) =>
      before.needsSecret && !after.needsSecret
    let empties := registry.toList.countP fun connection =>
      connection.needsSecret && lookup connection.name == some ""
    count = helped + empties ∧ next.fill lookup = (next, empties) ∧
      (count = helped ∧ next.fill lookup = (next, 0) ↔
        ∀ connection ∈ registry.toList, connection.needsSecret = true →
          lookup connection.name ≠ some "") := by
  intro next count helped empties
  have counted : count = helped + empties := by
    rw [show count = _ from fill_count lookup registry, ← countP_zip_fill]
    rfl
  have again : next.fill lookup = (next, empties) := fill_fill lookup registry
  have none_ : empties = 0 ↔ ∀ connection ∈ registry.toList, connection.needsSecret = true →
      lookup connection.name ≠ some "" := by
    simp [empties, List.countP_eq_zero]
  refine ⟨counted, again, ?_⟩
  rw [← none_]
  constructor
  · rintro ⟨same, -⟩
    omega
  · intro absent
    rw [absent] at counted again
    exact ⟨counted, again⟩

/-- A variable that is set to the empty text is counted each time, and helps no connection. -/
theorem fill_counted_empty :
    let registry := ofList [{ name := "t", auth := .bearer }]
    let lookup := secretAmong [("WALLINFO_SECRET_T", "")]
    (registry.fill lookup).2 = 1 ∧
      ((registry.toList.zip (registry.fill lookup).1.toList).countP fun (before, after) =>
        before.needsSecret && !after.needsSecret) = 0 ∧
      ((registry.fill lookup).1.fill lookup).2 = 1 := by
  decide +kernel

end Registry

end Placard
