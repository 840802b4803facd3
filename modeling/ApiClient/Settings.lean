import ApiClient.Text.CodePoint

/-! What is generated from where to where. -/

namespace ApiClient

structure Settings where
  source : Option Text := none
  output : Text := "./"
  modelsFile : Text := "models.ts"
  apiFile : Text := "api.ts"
  requestFile : Text := "request.ts"
  httpConfigFile : Text := "config.ts"
  modelsNamespace : Text := "Models"
  deriving DecidableEq, Repr

end ApiClient
