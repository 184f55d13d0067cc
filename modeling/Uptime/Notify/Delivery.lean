import Uptime.Http.Status
/-!
How a channel learns that a notification did not arrive: the endpoint answered with a
status outside 200 to 299 (the error then quotes the first 200 characters of its
answer), the request itself failed, or the mail server refused.
-/
namespace Uptime.Notify

/-- Why a notification was not delivered. -/
inductive DeliveryError where
  | status (channel : String) (code : Int) (body : String)
  | requestFailed (channel : String) (reason : String)
  | mailFailed (reason : String)
deriving DecidableEq, Repr

def DeliveryError.message : DeliveryError → String
  | .status channel code body =>
    channel ++ " responded with HTTP " ++ toString code ++
      (if body.isEmpty then "" else ": " ++ String.ofList (body.toList.take 200))
  | .requestFailed channel reason => channel ++ " request failed: " ++ reason
  | .mailFailed reason => "email delivery failed: " ++ reason

def checkDelivery (channel : String) (code : Int) (body : String) : Except DeliveryError Unit :=
  if Http.isSuccess code then .ok () else .error (.status channel code body)

end Uptime.Notify
