import Storefront.Document.Value

/-! # Documents: customers

How customers and what happens to them are written as JSON, and how they are read back.
What has not been told to others is no part of the document of a customer.
-/
namespace Storefront

open Json

/-- The document of a customer. -/
def Customer.toJson (c : Customer) : Json :=
  .obj [("id", c.id.toJson), ("email", c.email.toJson), ("first_name", .str c.firstName),
    ("last_name", .str c.lastName), ("phone_number", .option PhoneNumber.toJson c.phoneNumber),
    ("address", .option Address.toJson c.address), ("tier", c.tier.toJson),
    ("loyalty_points", .word c.loyaltyPoints), ("registered_at", c.registeredAt.toJson),
    ("active", .bool c.active)]

/-- The fields of a customer. -/
def Customer.fields : Record Customer :=
  (fun id email firstName lastName phoneNumber address tier loyaltyPoints registeredAt active =>
    { id, email, firstName, lastName, phoneNumber, address, tier, loyaltyPoints, registeredAt
      active, pending := [] })
    <$> .required "id" Id.reader <*> .required "email" Email.reader
    <*> .required "first_name" Reader.string <*> .required "last_name" Reader.string
    <*> .optional "phone_number" PhoneNumber.reader <*> .optional "address" Address.reader
    <*> .required "tier" (Tier.reader false) <*> .required "loyalty_points" Reader.word
    <*> .required "registered_at" Timestamp.reader <*> .required "active" Reader.bool

/-- Reads a customer, none of whose rules are checked. -/
def Customer.reader : Reader Customer := Customer.fields.read

namespace CustomerEvent

/-- The name under which the shape of the event is stored. -/
def shapeName : CustomerEvent → String
  | registered .. => "CustomerRegistered"
  | contactUpdated .. => "CustomerContactUpdated"
  | pointsAwarded .. => "PointsAwarded"
  | pointsRedeemed .. => "PointsRedeemed"
  | tierChanged .. => "TierChanged"
  | deactivated .. => "CustomerDeactivated"

/-- What the event says. -/
def content : CustomerEvent → Json
  | registered customer email firstName lastName =>
    .obj [("customer_id", customer.toJson), ("email", .str email),
      ("first_name", .str firstName), ("last_name", .str lastName)]
  | contactUpdated customer phoneNumber address =>
    .obj [("customer_id", customer.toJson), ("phone_number", .str phoneNumber),
      ("address", address.toJson)]
  | pointsAwarded customer points balance =>
    .obj [("customer_id", customer.toJson), ("points", .word points),
      ("total_points", .word balance)]
  | pointsRedeemed customer points balance =>
    .obj [("customer_id", customer.toJson), ("points_redeemed", .word points),
      ("remaining_points", .word balance)]
  | tierChanged customer oldTier newTier balance =>
    .obj [("customer_id", customer.toJson), ("old_tier", oldTier.toJson),
      ("new_tier", newTier.toJson), ("total_points", .word balance)]
  | deactivated customer => .obj [("customer_id", customer.toJson)]

/-- The event with the name of its shape. -/
def toJson (e : CustomerEvent) : Json := .obj [("type", .str e.shapeName), ("data", e.content)]

/-- How events of each shape are read. -/
def shapes : Shapes CustomerEvent := [
  ("CustomerRegistered", fun _ => Record.read (
    registered <$> .required "customer_id" Id.reader <*> .required "email" Reader.string
      <*> .required "first_name" Reader.string <*> .required "last_name" Reader.string)),
  ("CustomerContactUpdated", fun _ => Record.read (
    contactUpdated <$> .required "customer_id" Id.reader <*> .required "phone_number" Reader.string
      <*> .required "address" Address.reader)),
  ("PointsAwarded", fun _ => Record.read (
    pointsAwarded <$> .required "customer_id" Id.reader <*> .required "points" Reader.word
      <*> .required "total_points" Reader.word)),
  ("PointsRedeemed", fun _ => Record.read (
    pointsRedeemed <$> .required "customer_id" Id.reader
      <*> .required "points_redeemed" Reader.word
      <*> .required "remaining_points" Reader.word)),
  ("TierChanged", fun aside => Record.read (
    tierChanged <$> .required "customer_id" Id.reader <*> .required "old_tier" (Tier.reader aside)
      <*> .required "new_tier" (Tier.reader aside) <*> .required "total_points" Reader.word)),
  ("CustomerDeactivated", fun _ => Record.read (
    deactivated <$> .required "customer_id" Id.reader))]

/-- Reads an event. -/
def reader : Reader CustomerEvent := shapes.read

end CustomerEvent

end Storefront
