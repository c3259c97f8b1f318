import FormRules.Catalog
import FormRules.Proofs.Text.Separated

namespace FormRules.Catalog

variable {steps : List (List Char)}

end FormRules.Catalog
