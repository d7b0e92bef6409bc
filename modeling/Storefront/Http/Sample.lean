import Storefront.Http.App

/-! # Sample data

A lemonade stand with three products, a hundred of each.
-/
namespace Storefront.Http.App

/-- A product of the lemonade stand: name, description and price. -/
structure Sample where
  name : String
  description : String
  price : Nat

/-- The products of the lemonade stand. -/
def samples : List Sample := [
  ⟨"Classic Lemonade", "Fresh squeezed, lightly sweetened", 299⟩,
  ⟨"Strawberry Lemonade", "Classic with crushed strawberries", 349⟩,
  ⟨"Pink Lemonade", "A splash of cranberry", 329⟩]

/-- Where the lemonade stand is. -/
def sampleLocation : Address := ⟨"123 Main St", "Lemonade City", "CA", "12345", "USA"⟩

/-- Puts a product on sale and fills it up. -/
def stockSample (supply : Supply) (store : StoreId) (s : Sample) : Job Unit := do
  let price ← Money.make s.price "USD"
  let p ← Catalogue.addProduct supply store s.name s.description price
  let _ ← Catalogue.addInventory store p.id 100

/-- Runs a script with the next supply of identifiers. -/
def perform {α : Type} (app : App) (job : Supply → Job α) : Except Error α × App :=
  let (result, backend) := app.backend.perform (job (Supply.nth app.next))
  (result, { app with backend := backend.settle, next := app.next + 1 })

/-- Opens the lemonade stand. -/
def seed (app : App) : App :=
  match app.perform fun supply =>
      Catalogue.createStore supply "Main Street Lemonade Stand" sampleLocation "USD" with
  | (.ok store, app) =>
    samples.foldl (fun app s => (app.perform fun supply => stockSample supply store.id s).2) app
  | (.error _, app) => app

end Storefront.Http.App
