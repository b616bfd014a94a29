import PascalCheck.Proofs.CommandLine.Line

namespace PascalCheck.CommandLine.Usage

variable {σ : Type} {usage : Usage σ} {f : σ → σ}

def Progress.changed (f : σ → σ) (progress : Progress σ) : Progress σ := { progress with settings := f progress.settings }

end PascalCheck.CommandLine.Usage
