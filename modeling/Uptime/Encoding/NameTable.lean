/-!
The names of the Unicode characters, version 14.0.0, with their aliases, as one table:
DEFLATE data, written in base64 in 12 parts. The data expands to a run of entries, first
the names the characters are given, in order of code point, then the aliases that also
name them: other names, corrections of names, and the names of control characters and
their abbreviations. An entry is a mark, a byte `0x80 + k` that says its name starts
with the first `k` characters of the name before it, followed by the rest of its name
in ASCII; an entry names the code point after the one before it, unless a `+` and the
code point in hexadecimal digits written in capitals go before its mark. Names are
written in capital letters, digits, spaces and hyphens. The names that follow a rule,
those of the unified ideographs and of the Hangul syllables, are not in the table.
-/

set_option maxRecDepth 4000

namespace Uptime.Encoding

/-- Part 0 of the compressed table. -/
def characterNamePart0 : String :=
  "7P3ZciO5sigK/grf02SWqcys4RGMABkQIwKRMYiivoa5bpVmTqJIUVKqqrL2Xmvfu/c+p89D97UerK1/rd0dQAQQA6laZ/fwcM2kIAYH4HA4HI7J8e74/TRLmMen/MwLWcRyIeNexNLR9Eshc8sbF1Gfp71MDOOpL8OQaXfCU4/HufKwCLwZi/2viczyVCYBn4Z8kPcS" ++
  "lgJQwDORTVMxDNwQluU8FdlomoRFpnLyZBSxaTCBHOKjSMRFNh0UYdjLcplMMxkKH0J8MRR575yn8kLG/CIfy8sg5fxiIIv0Upzyi0ycXfJTHl9wLPMiFjGHnEMZTzMeCeUKeZYd5QGLVcH8S8FCjcQw5Qwws2K/FDyraIJIQvUFC3ssn4ZArbjnsUTkEBDyHJL22Ka/" ++
  "8Tb+hm8Gm+Em2IjNyWa0CTfRJt7ITbL5skk32SbfFJvTzXhztplszr8iwTJAI+W9fsq8Ec+nKdQizXhP1/wrkbAG44nUK6JByM96zMM2mYZy3AuxzsOUnfIylPDMIhZWWK77a2/tr/l6sB6ug7VYn6xH63AdreO1XCfrL+t0na3zdbE+XY/XZ+vJWmHpFWk4KREAFHPh" ++
  "Yd2xTNXMLkQuQp+/Y++nsTzqA3FHPcV8Isa03O81uLDirUQWsa+Zo0iBebyJ8k24bpx+Kkfg7rMUmtejPBS7CsZTYjRPJhOFF0UMgAmQJ3oy9UUMiIvYhwrkMiWuPUqkiIFWw54vi34IBIyH8K13DKlzyyRQRHEstNdQIFNzjXHEvBR4zefAUlzXB3hdcbZOXmDf8VKR" ++
  "5D3g5Bly8pR5RV42HHBsKnViEYJ7rDMXvg94+RJ4gPsC+qaTGXQNKD/zirC9qkSQt9X1tAiH0PEH0JwUCFn3kAmhpg8BCwfLHLE2QVnVrm6/ae8pvbHIgx6x6jeq97eKo78R53wrW/JbiqiyvjzlW77xVFJd+Q3fm1OZx0a8EY7nwSZWsITGRv4VVKdREeYiCZHaJUu2" ++
  "UkBni4JzxDfFG7GbKDiC2OSBTOMLp29nAUuTXra26ftM0M9Vfs+E9HOZ63NF3we+dum75ntzKvNYizfCAX3XNn3X8q+gCt37VGQ1yjoUcOi6Lt6IlU3XNdHVBJUwF+0srDq72wpuVHu6Pkr51mQqpj2VHEIvHLUm01G1dJ5VMTeZE9OeqiJVa1Iruj09CCnFVq3Jq9iO" ++
  "0lmDsE5MLZXfmco/nEqxS2syHVVLx7tbn+9rfd7Z+nxP6/O99OQH6Mm7eYfv4x3eSVG+h6LD/bwzPMQ7w04KDfdQaLiXQsMDFBo6Mq8dYR1XSxnsr21wqLZBN/8F+/hPWCLUTebEtKdq41qxj2tFZ5uIPW0iuvlO7OM7sbctIRi1+J6okokhywtQjsWJAbVCapmf7G+w" ++
  "k0MNNtrDKm7cQ9rglrBTGod7pHG4p8hwL3eGnT043NODdVylabYmtaLb07fxdLiPp+NO6sR7qBPvoU68lzpxJ3XsmE2ScsgA9Nr+pMfKqW5DWMbDmoyEgHadr637yX3dT3Z2P7mn+0nTjZSK36RqG0CjT0le71OyUVLa2XDpnoZL9zRcurfh0s6GS/ewddaJZbYHy2y/" ++
  "vMgOyYtsTy2zvbXMOmuZ7allvqe8fG95eWd5+eHy2jp7vq+zF50DWLFnACu6e1CxrwcVnT2o2NODdFw1PWpNakW3p+/ugcW+HuiAtA2ixb5BdLyfb8eH+HayP/3kjemrqet5Z/c739P9zvfqAucH9LrzTpa2Y9ahhBbM1v19/KojAylH33KZ9FnqZqjjdVS9k+DaSSZq" ++
  "NCxD64I74XFPmoUOLLF1FkQR9WniIBUei3v+xj+Ar2/juwbBHsMI5/Mwb0pbtRzp9/gm84Ix2xB+fDPowm/Qjd+witqyKKrJp+C0oQrKnG2dlZJRV6lWxFqrGVCzBxb1fbavYXXVI7PqQ0vYzexNLLKKWlUMeecAr1QjtTbUXKSRBtO0OdKLGqioQyRd9bcjTB9sZ8R8" ++
  "LFsYEUPrOk0WXDSYIEMiyKRV1CcsZJi+renzLsTzbnbRUSmHlqO1bgQyi2VNwhbdhC2STEDbbU6rwsxiWhOjSTdG593D3fne9YLzYFcSsaYongdlzKPqlEyEhvDQLHu5F5tuIOqCsQo2Hckszg5DmWN63FuxM56NJ3E883mMkV4ovNEsxP2Q0sfCUy5xJ0h5qzYhf2Nd" ++
  "xRawpgd3CeCaZDrfNzc5acvspDbLaMz64rcki086Vt1akGR7cBSdqcSeVLIzldyTquhMVRxOVQ7OPRb7+5SqVsC35LlH52mBe0uO3TVtg3tLjrQ4/IYcCc6MlF0LtIdJyt5OUlZTbw7m2QZYz3PPyiXbu3Q57BZ9w30iatjJosM9LDrqTDU63InatGW5T1t2IjvJ3AnV" ++
  "FPbdS6dO3Ppk39r0eavgrEvLDnq3dL3hHkUbFDuRbnAQMIpQS79wYtqZtZoNdQmAfYAdzNqWC99TGWfI7MKjC6irE9IcrYUobQDteZSDcPfmTw2kax+gCxd+GBd+GBf+FlzEIVzEYVzEYVzEW3CRh3CRh3GRh3GRb8ElPYRLehiX9DAu6VtwKQ7hUhzGpTiMS/EWXMyi" ++
  "FZ716fV5KMfti1pWfMcCVVcO+cEcJnIY1FR9DOnY02kK72CPtG6fILZuRBZp2OC+osZqRcfMozlbOd+zHLB39YS9bd+wdSmR711KlG9VhuTblSFpLQseyq8B1CUvWukiD9BFvlUtk29XyybdWpkTZZY2kIfMOQpy55bbbJGdPPSBtNCrk2D9JTHODibR6ytet5bn7dPy" ++
  "qiWXTV42KihKNNVs5qV7ezZmmZrvrs/rIQ29xpq51vQaO6Z93a48Z0MIKh3+1BweakOQ76vsSXe6k33pFOSXqsOqijoZNGLbx4a2stN9ZU+60zlRZobD1ixMAlZ6yWOtgq7VMmV5XogYr1euXzwTTLVstKa1w109Pa9AlP9PC8ILJUbUICr2dtC2lhbX+jDc8MKhuyFI" ++
  "TSoPcSFynbIoo5UjU+FgHVQ5PvDYzl/YJT/InLUXJPZtnKqTTTBM5c/u+tYDTBEMEtGLNarAeLKOLCzqC5a1fNpxqgkX6A54blG2A8u6BFANIiM+ZOskEAbNtIbmd9X4buAzscVAZIGqpW5UDWXC2xFJX0rlIm0VJFQgz4J25iDBqzjjS8FyZzUTU9lyVNUof2hbelyT" ++
  "/HhQa4lray3RJDt9Hj9P2qswaR213fyfCQVo/62lKbQIuRn0xXQSDzn4T6WAUbhHC/+5OOWz1qW+GRCC514Awd6sL0LWF+XKnotnv73Jqet19KeKDi9B+3GKVGaQyxEJek2qjpbuloZthHBWMMtW7YJorDPqERF7XOkuQ22myCrQrAL1WkAHKCnMoBtmzWxNNcpGwEP1" ++
  "RZZB0y308msVUlNwtWRye8z/RtyNpJ1G0hcDgaLGJm3waO26nGzTrem1v1nhpcwq+9l2vJ0sk1REfKnnB8qjU5OavawORCxL8lPMilRgPCdMM/2lklKl126iZWvDqRQgnuQ44MxfKp268heJ5fHlOLa8zdPxpLI36OMcYl8qDWtpH8Ne2ofpl3jE3knyoJI82FAPTvo8" ++
  "FSweFrRujjcQlkSCRijCohxOXartalSDOufMG6nqkqu8RLG0TpfT/Gtaqp3TaqllqtaupooxaAia2rvP5enzGqHSQEKtiVOW1JlN/VRGNIRuw222Pdu2NyY/y1N2FED11N4EiNGl64NhsfIgpUuPSusETUTc83nCUjrFTsF42HzFsPM1w5coJImAMcsSkTJgcMPUFgdj" ++
  "ES4nPdhc9uBy5EONI7eQvx7bbX54tCfXOuw3h0eoZtgUy5QJ1YGQJ/p8CLUsibTkOIaVPhVriEKRpScLeDhYkshWTrobUiKPV1n6eBdi6CB1YyN10+hCN4TijeL4G+ClFHvADfHaTclrt2Ymd0MKLIXdVPx308JsN9Q3b5yO5UK3RK0czD2QgClI09gvbtxViBtbWulc" ++
  "bbcrtJoAqkfe2KWppQWHWjqISIzdUvsVg1gBqg3osoUqCRXOG7eTa1Dd1bWv7PDaX3Z77a86vwFQO7HinCvFx2DkqBtl5roCZeOV+JfoWIsqt2rOf6NESa3dFHQ/Ff7QeMoGMW2feoHJFVvelF3jtzIraKF6TnagmutrMhBzGmLrC1GGi0q/SkEczCY3GbRBbvREE6hO" ++
  "hLhhGlBdyqpB1gJrYryJvkUec7FLkZYN8eKbijnTTFJSWPVAXZ2yByreLGWdZszKj7eQRqhTiCwBzT0Wy5EEKolsCTP0cJKLEUNomS0niRxyyC5CKNOICgfrplzJNS19s8HmKgCvTek1Gc32kcwDjkOKCmBhBFK4R6UAMjqU8rGkbNk1xiz1MyeMVCse8d6JBDzSm5ps" ++
  "tjOsmkUFDngaQV8BctvYlyntrlwLfUbFyx4hVPCyXkK1AKSkibkC6VLS4pRzMTxnNZFp8fx2pRj9UXlXRNqV2ztWVFSTUG0XAl/5q3iVr8Wr9+q/Bq/Ra/qav56+nk0V69SXR3leP7fDm6eGsJczaN+MRUltHuxGxUVEpwyQtS4AQ1xKtYPq518gUTAJBR5yEsPmGaJm" ++
  "/LuPP7ILh7V1ilL2h6AW5HRTD2RcNon6MryDNss7osp03TAXzh245jJ0/u7jT58uqNdd1Hphg5C48GIOa2E8i2Uv5yEXDZpzNTG1gLe5nXSDx6ksPyDhbSTdNIzdYL4pGnltaNpvY+Ju1JR5VxWiiUlnpTZ94JsNtdGGTp5tdAU25xiB/ygkGKG9GbEkYZuQRT7bRMUm" ++
  "LjZnwiC/ScQGVNR3H9nHDTXDJmeFqcImCcTGg3/wqjpsWnB1K1wG1zi31hbrJsUfHAqvaxRft5dSEUovuiFl1mphiihjClojZdb4T5Sh7NdEmTVRZh0V67hYn4m1psw6EWugzHpA90CJNmv1BQoZbGgpByi0Bu9aLe60UKgD93WTgdZN5lk3mMdwxIgJ02mw1sZN9TMe" ++
  "Jz/SXFTEWithenXHhLrbCVbMBVRUOy/LUi0EagJqJIGw7bJLRZlpdo4Ura1LqTCz1tAmqkygOdfQLM0tpSlJKQgvOuNIWl9rDri4rF0OhZAa1KAONGjCjBo5jVpyAu2oBkUh9UV8UAsEu6wtwFJYA38RsXoFMKh+SqKOHATogYs6hmlb6AVlMzcF9mUpmUvGdDhQJzH9" ++
  "3eRZG0Fq0Y0ayfptXevIZROnhWnk+vF/CMDa2AuctRL3DW3z7mFr/oahbepNUtD/mwwn7KvCT3Lnn/DdEP6LEUxrYxyQBd/553zXn4AmkuICF4uPrNjdROwAPoT/GP5z4NfdCBz21eKd0sILyAhi2a7PdxA4BLcPgHwHoU/g0GBiN2I7Hj5FT/FO7hK+4+lTtssBpx0f" ++
  "7AIGZfCdF2Cu7Bk6NgSl6hL/bsLTYke3/MnLd5PiiV27smDb59tTvoXStz7fCr6F0h/BsdWlb0dsy8PH6DHeym3Ctzx9hBGZb4stH2wDtoXSt1A6gDPAgm3L0rdY+rYsfcu3k+KRbR0KP8otUHgLFN7aFN4ChbddFN5OxBbggcJboPAWKbwFCm9tCmvkiy1S+Lq+9YlS" ++
  "3KWCCqprOCx3oTCgebYb15j8Hr+uKxImvL7HKPIcNOFJkbkprPCuMrqStgHUdxDFsJnOBHaV15qoEVsXtJlwE2BAXf+twyRNmAF4XCAKqeN6Hog8qwGawHbY5mkRPVlvzaQbun7EZOSmB39905PsgbRwnx3RxqvmPEAeyha2tWPrqWt1kg2saXC+bo7X13kgC7SLo6bL" ++
  "X8vFtlJwUoHrcomGTEWsfQa9tZfEvMDZKKpioSi9D3KUgrbF1wFUFxeK3TLWEWYsY11ih4DWUqnao72uj0a16Hp6HolSJtXSOlH1aUlq6OzVGtqJqWsKgZZ2RYJreG7CemRXWjU6dqTVkV1p9Vouqo8dGdgQ9dM6BsbnGbC8z1M3j5b4eg4HMjiUfsT2pm9Gd6QvF3ja" ++
  "aNkF1JHXvizaU/ZZFowEQtXkbxXeuIi7t97N6MaVVwCBJr6uXXvVoXVxfIhZksO8wvqjADt/3AvqGoYd07ics7+e2YH2zffzV36Iv6C9GC2KFTVRUIV3pujmhg6Y+lxjP28H7GAb4wpp1mhjHVq3R3KgL3sH+3IJsbczdUI15HidTyikk6u8gHexldfkaCdyb733QpbL" ++
  "caH0gmYvLeUfLVZ2yEYV1yFLml3Nian3lrBr2HNiOmRJsywnpiNVS1lxd1lAyxHL2husFlcvL+osz4rZdjUF62wItqcZ6tdYrvdecml2QAZzlXr3o7COWWULemIfm9Bxs1ovoaA2uL11aYXoHO7b82iJ7xruOzI4lL7qjDAB7OqnGLXPJMx1t0mYjnQd6IoD2Mq9qeWB" ++
  "1ObQ2nXrUbYu6L1FdgF1XMBoz+RQGxXdtC720brYW2rxtlLtnffrQ1YIuofAdhy8g/w9PDCYDA8OorgmsheJNoD9E4NyfXjvDKGC6lBDmjkEe4aiYI8yHOxVhkcyEkCf+pxTBbbCnrQCn7RDn7dCn3dA++3gfhd82AoedkDHrdBxB3TWCp11QOet0HkTulwNrUtUO6JD" ++
  "0WhRGcJungjrGl3YVOjSOkwatKy78fq6WwPDL7VsvjRyGdcyGTdH/5AXeWNSVoZ20KRzktQG0KFUdecRH8wj2S+CkoNTnuDAxKMNoKMe5ant9lpU0Y1Loed17VAF1eEaSqTfpjqG+yeR9eh3nz9+mLIUN9FZ06jrpL/r83g3FNHOZzvuBbtz+Ame8l0ucWV+J2KxC8U4" ++
  "3p3xYOex3QigA7k7YbthwHxciQ92kDduBMRyjKvyu1OJS+O7BGJOMDpluwx+Tvl4l2NOKeYkIQW4EzFOIc9gJ4PdgAfvPn/++bp+ktE9AnJdnf675lGCalKmTs3UbBNf0wGoa2db/5r1UfUUFlTbcV0gyxb/gTRbIM3WZ1sgzfYcfoLHfJtL3DbYAmm2SJotkGbrsS2Q" ++
  "ZhvI7QnbImlwmyDYAmlwBR9Ig1sG21O5xV0DIM0WSbNN2RZIswXSbJE02xRzklskzRZJA3kGWxlsgTTLclXDC3oIsNTiwrnZcF1a4b5Wpo7fff7J1yaEB8yjAy6GFzgkj0WuzTSTReX9IGWwn7KIgt59/vnDNOBA07E5A8bzmAU5m2d8KMMFNBueZ+T5/Jx94QOQXDmL" ++
  "H4bMl+E8F0AHNqf2gOj0C5snLMO0E56L03kOEel8iGpB8NCLii8+i1ZAxYmI5l8YNNQErZQzgAsFBPeGHHLFPM55OmeIBnDNoBgF86gAz4IFLGGjYMFTUK4feiMOtGJzn6VDBvn5UZXTFw5YIhopw3NvcW8iIzmXIZ+LsJjMfR6I+bmIZXqJLAR8lMmUkWWlkF+SpWbc" ++
  "uT1lswCqO+gRKdYJuIP1F2TRbC5S8WWWZ1C3GcXOKHamYmcB1CO6B+wz3AiQae+Unc6+FP0C4nw2xAPtEBhBX/4yi6CNhldF7OWF4eovbHBFSKRswO0oIC//cqXxw/O4Mp+rHxsqkwOELL6o2hVJomw43qmjPuC6TCzwuIg1nZnKWlVCNfW7z/77y2qsGcz7wArQpXgI" ++
  "hEe2CPgcKgfNPxExeHJog3w+kf5cHX8YscEc/4Ee3IRFPJrjv/JB8XP8zwACmpryUTEJn8OfcucZ88Vcfb/IwRx5ao40mOfs9N1nPriEMvUhb2jDcn47gaFJZKWmDaju4B/4wd/pIHA65FD8ulV8+u6H9++h27C+8HqWhf5LOpSXAY8FlwMp81jm6uQfT03UAHpGdMry" ++
  "S52MmkLdbTwi2+A9r+jzXgqpZ2hPHy+mgPsC2nxiILDdcJtBWTRf5cDIZhNC7ToMQFDFQrkVkiQzL33aQcZD2WiBHDiazv1pE/cl/pHIUnaXgfjEP8gYWphNUBFnGYVGdzqg9EN/At4oEFwDz33RK5PHQXGXQxeFgCK7Ujch6Pg0C+6rJQdgIz3iMr1YMuHB/TkT8WzA" ++
  "8oBBF4FKzEYM0Lsy7wgYJkQ6XuLRa2DynJ/lKgAaPlGWMXuJ05UgzhlALsuFqyyIoBNj0fOARedsXuEVMd/Xh5F3FKfc8zHTNtzswCqZCqUzfyB6gnZQ6EAB9BEsJAV5wFYLGEfmJxz6Q8CC+Qg/0LPmQAc8GxDMkS4gjHkMgPBhPkT7wPUYA90FIoEJ4AsjjSkTDRgB" ++
  "KTJV7DPZjCe/wm3A0owqXrtDfvrqJvytSkj+y5zlY87Dy/LcSgByt+zf0KehErGUKAcCJJaiTcRGWZGiNIbOgu0LYuWSmhgd1MrooCgVrgIvoQtCO1wVoyK+pCYJNB4WTWdUpcus6OsLiFjkZXX+mbKjvoeIwTSziGN2eT6GnjFik8tTkIjq0KM+n3mqsr0vc3CDy3Pb" ++
  "l9WxDSqCsHepfzlmpxObKUy3rp7VWMuYrwH+ASm9RjHwIE75OhNneFcvXtOzGmt8QuGiZz8EculzT0S4Wl32cWt3sgxDa1Q9Gs6wIjlLL2sGfYEXt9iC9nMGxKSKqVkWsgesklUTosO/KEaivk3BO0r2hG1eNPm+gqPuBigE9/Db57orlMZJHvMay9HdEDpRC0MBAVO6" ++
  "gDpts4c9lgxcrucrDGIs15/YyepFzfGqXrBGOOh/CxZaaJXN/gctTOirPCzAY8cL4Ev4FlWS7ko8YhPbZabQwxeGAprVHt0iHw0HKl8ZTpiUx5wf3a4LAiVA6aGvrdVKRWlS3ZNvyW2X12TG/6qOS9YqBsKoJnAIeNegbCfNQXB1xBgWRSEzMBVBBCOI1ae+XxQbntog" ++
  "dcyRb5ScqlkGaPCakqBzdRte6y01HtDMNKyiGsUN2WBVpQJYCXkOS3CHUIsCWr8lJ1VMOToavuhG/U9VNok4t13XSuLNU5LLFQBddWsUiSOILxlMcWB05LpL1Og2L4NwBFFicShZuG32e2uY6yFINYASbUYiHQbivCf5HP6K+aQog8BZwtY4G/7KAawaZnG7xfSUKmmF" ++
  "NLdAa012TwvRfNfA/7Kci5UaMNfnHkmilRpNZvpB2WT2wPdS8l5r9D0OmzAIixxvpsJkIbpHOAS5R7XgvsL3HjuuUX7YBJRPFOo5+tKij0sHQLu+pXfRUR1aM0vlfZGoGxUp93JzFZIiTFej6xSQF+ogGqtMokVCn9CaoZhADGaUN43IMyD1DCirglCNQxa7TELmccwq" ++
  "YycgHi9hng9zUHXjki4FIVEfKA2R1+BZhpjrtqD7+jqdOXEKqRG3cigzUrdSYyrBV4VNQVXkVIbS5htD8TcYir8Bq70itb+hxHyF0fMbDMWvOBR/o6H4G71wpecD1RHfhjRFFa0eRFpaLVBPFgCXALRo87jXGhdI4F8orZWXum/QUq9sAnMer6eZAkd+upcDGlGSMrwg" ++
  "hO8JlWsK/UZIBUVqdgmhlG48T3wulYFKCqBvLxvxMR7g44NcXcl0imvAuJmaGJXQg9z1c0eg16WjkLO4J4E6RbaEqbF26es7XpG9+/H94LKxClRNUaHuNXUGQ2DWilIYOGjdG4L0AKEoUM0GrW2huV/5ACuYWAak6yvVO8CkMKkN7quUk8IHL0CNMHNctfKDeSQiNZHl" ++
  "0Qhy0hNX46O5bKk0ghuEBmTwBTOgMvVkFgeslHYO+1gyLkUB1ls/IPQuE1AzAyNfNa/RueHLc8yqNSbts8xVl/VR43PEvFe18YMWC5dBPcXdEc8wSOeoPHaO6RjQuiwf/MI1hi9FFuAsml2mxWiEs8JLFOWlZlbJ9CfK46o2Gt2rnCUwD0zhrIuoDyoiKjLhXZLwHgXv" ++
  "fvzkGybI5NBHAp5jj9tCuQkuwNW6bb9lOKgogW+qtahb9QHTHojLB77MXTlK9n9V6ZwhbOcoATU9rjHxcJRAS311szyEx7yUkw0V2dTVVW07EKlkq1qvtHTJupZZ6XYHUS0V5BqBLBRVnoPGFLeucXZU35odl7R+qjfnv3YkprHQTfutrnHVECrp+NtppcgBr1b0y7sq" ++
  "+WirUBV5O+ErnlCFunyeM33z9/9kM6KVb1ciBzzlwV+APohQfeVk3+CMuRL8/4VaS/OBu4TxpvT/9yr9/414VTVhqSy+KZP/s4UEFq90x7+Qwf/DyqCk076UFqpVox1MoPqRpRONGlMQZZ0CxhMWs2oznMFAxE7FhMEwh9xdzFMI68N/WIaPGBsU0HwCvqeMnRbUQwpo" ++
  "FQyHoYqFBS5gQRrGIHyI4YvYJMdqAJjxnhtHbhwThrsA2nNiHF5Zfp4DQID5j/CTqwLPCXfMe8FgbMUS6CeX83OJ0qhQOlgBgy7iOUbMQZVgoGaKK/glx6XoC/rlvM85uYp+Qb9S9qVUcX2KuZr0+URF9aXORapcMlq1MnYKGXv3o/d+Go+kpXHeSLwYP5a3yBE32Gq3" ++
  "oHHegMZ5ixrnDWmcNzic/mK0m1vOb8Utvy1upby79dkQxmkB07vb+LbPbhN2m7PbE3YLlILI25Tdpew2Y7cAdjtgtyN2GwIo641BDcvkbQSeCbtjtwA+ZrcT8prIEwmAJ2wJeS1T9ktlv0KdWS+tYjwYExigCGbGAsicrujrLUwTuC7TrE2atZ0mBp3CHM0npW6uV+hL" ++
  "oftLZb6k2kT8pbRSYoWpe1M9CfTmccxjJMGoSAtw/kJL5L/UX0L9JWQnDOofsvjdjwP/F5+BHkDeX2UqI7Vu/ksOSfRDiBk4UwEzqWorHqb+fZGvUM+MV6RPrsRkBYy1OufxCmJy+J8U+Qo70CoElstXoDWuQGtcIR0YJohXA7HKM+BdSPulGKxQO8Rts3gFbD+4ocVM" ++
  "gDrC8hbS80A/hkos1L7SbW3vlSf0CjAu/0PBt5jWDbqxlkCp1fiGb8jQAXoY25hf+KuCdeiG3TTsHxF7MDtbHaTSFJuikUY0kBAbsZEb6kSqwjH/UkB/fvfTx/c3zuaVCt+yAVDsy2M85P62z4otyyMGP6BUT0CagBi6acwZnHwiELAoQr/gLZrtuQARsdVuxgdovgny" ++
  "TKHdYrokhluGAYi7fMug+7Hi3U+f3k+h1X1WDXSgsX9hC9ZfDpf+MliANgysCAHnC5EvWJ4vRxlbLcNltIyX2ULEC5Yss/Pll2W6zIJlvvBNihHzFyC3rthAWxzTFbg6lZ7bY66GqIBX/nc/feZXVjXf/fTDezNjLPdTQmLzqAf8h8cCoA/sQMDuoOTnmO36AcMDAGHI" ++
  "nkO2yzJogh/f13TpaiCHajGyeEbr4d9xJq8WHci/U259XEQpkMrekhtU5kL7AN/7MOmQkc5IBak7SKVg+FMtbJjA78qKRemtoJVyVq1zliXVMK0th7bgXYMoM2oi60J+bytJW92Ih50lVRCHSiohvxuTKKBNftdnMMBpdnG0YXWckOZp4Y1U7O+gDj24uqwZxXLcccZN" ++
  "HBh0OM3GSrpeaitKVYAZ+Ur9uD6dqJSfjolGuWhcrYQ3Flvb9rzq05rLypYLE+G7n35+f6meuq52ZK8EQ1t9VgiA/WQv9Y1livY4j06Kc1oGIz/IZRAy0WOEAmabM1Q+QrVT1QPl4kT0L+sbK71I4sFgmD5fqsHNV+tol3Q8RiXFJtGh9bmqOye05wkn5RSltlyat08Y" ++
  "3TX17hmuu3CuqF7OZ4yZFJjWVFOkRg6T9jmbOuJZVeHfq8XacraBr964q7noEPE8lfAdTtR+EmWGu1Z+yw6M1pzLnYqW9fo6G+qJrbkWY1aC6ktve7YwNHc2SdekJpEhdpqm1txEWhWTdMbkbkxulubrMzfqkIfbpQFsXrkaqB3DLW0n1NA5rWNxumgEVBsKJo3Vh02Q" ++
  "tVTa3DHSiHzp3Dc56WTFf6nx7/7p6TBlAy0DyummWucuvff1KaBLynsSExnDww3BZcjSoSUz9WTf7F+DpmPELcGpw0gqaFYlEnEmfDfWWhjH1XhLXqVHadG/B96/B3reA8XuK3lMAwbJsnqYlUEeHOVq4RGG/iNazN/FR7HIBo8ZG+Xs8YsYPI7ZlwG7rx2Dua+OwVz6"

/-- Part 1 of the compressed table. -/
def characterNamePart1 : String :=
  "IksK7DL2zoV5/oyVRs4u0ZjnpNc4AjIzhwZm5tDArDw0QHq/jK05wp0r5+5QhGingVMrmm5TKTi94ohW/Eyhd6bQu7JQe1xgY3vrH4fd+xIVdYyhvuRfs3WlIFttZ122mcW6bDWLdVkatGrJ519KFNrLqaJVa5ReGg+R38ZsktkHKKY+P2UxG8IESCntpVS0zAIubTfo" ++
  "zdkp9LTlqcjwwN6tO124Z2t2L9bivlgX90qt9Xrpc3iv8ujxewXI7znwsgmVOlTey3tW3I/YOmD3Q/qCMgtQ6DpR/gm7B8XpAZwwsOIPVOM+pzhfQbA1BiXk6dM3YveQLEVL1fchmvt5CNn9KYNS2TpDjGHibM1cJH+U/JaccQG9Y8lOcTPGBYJ5hXgU2+Kx2Jb1/D3d" ++
  "mnpqUxB8y7dMmFCpQ+VWblmhSjgVKUwz7ZwTnCjmuF2QU05sfCujW1RsMm1FDmZKQINHaAty3NoGAm5t44p2thoHNTfcFvyx4LflMfb7UYAkx885UtYHRwr/IBBg3lW1JDRlaGdqIsLfw1sfp013eqpP7nKJZAVddgUd9R4F+QqXSO7FKYe58tk9LpGsaIlkhUskt870" ++
  "DstQZFI7iok6Fgs8bVDXtWL3kq8l8NT4vuDrgkOTp2PkamCS+3OoCPSS00kPqjIEhjo5gV/LxCpWGHilz6Z9DgwXChg7T8SVRTZi/plh/plm/nc///T5ysydlmwhlmJRLItFSa7HEEAGCw7Tvnc///xxIResgGngMmCLIX2htIVHrhPln7AFoLUCJ6CEPzhxzCnOVxBQ" ++
  "KmOLhDx9+kZsAclSiOgfL0L8+WEBrL3MEKcA/d5Vxc0zw81XDjevxYNYFw/FukT+W/ruZ+/HNV8j8l5/LdesuLJ49qq6YQmNDQPuu5/9H69YASNwPKTTdzBx/dn3DFyaIrYQMlgAT1VEAiqFV2089Q2ox3+4qlba5ri8BGy0QDaaIxstBK6ti7MFstGc2GiObFSWydwX" ++
  "t/W7Co/6BK32XqWg3qsRb44oXMEIlvLYm2hzerlMcXB6gaK/YdEvWPQLDkO04wh9FQ90clyjkjRvl+nKcuNDpTnn8ZXIoFnSqyHRi+b5pTFlXLMw7HXV6ANXuJ0cCEVS9v7DdFikUTEKtNRmPhv1kEXFXH0Nf7L3n81tYrZiS7ESy2JVQPBgyfkS2pV9+LiUcsmK5Qi5" ++
  "bTmkL3AlCH10nSj/hC2BK0FMLrGjYEgMIRTnKwgo65gtE/L06Rux5QSXHN+xj8fLkK1CdH1engJfBuj8aUXswD561xVzgpdfO3z5IDbiodgA0p9+fOD8AZH+1H+Q8oEV1xY3vmOfP8xxCSkH18/XJW9ipfBzDrggMp/5cgA/P/xwXfHVAppyAY27xMZdYOMu0aQ4NNsS" ++
  "+WpBfLVAvrrORZKIa5zUja5FKq6LlF3zEXDHiKUKnQneNw6uG234jv304W8neKJP9OqSZW6avmq5n9pabll2ml2oyWQGHEgxMCmwad1o+Y79/NFE/xe1N+tq737Z3n3T3quM6ebu2809N7Kovc0fyuq+pg9VRT1gBOCDh6puHjBEgx/899cyesf4e1PvSuLswvC6TeK8" ++
  "hgD/T3JGo8GvlVRRbT8oWfIc76KRUo1zhQWdjZ2rY7FzmugcoY5J5NETGD1JsIMApaNm8Ls+iAaZCphP1zns1nDYreGw/vvPpdG+OZuJuZgV82JWEmkTAshgxmfQ4/ofPs7kjBWgsM9BqR/SF7hm5pHrRPknbAZcs0Ct36cf4JpZTnG+goBSj9ksIU+fvjA5gGTANf2P" ++
  "x7MQN5rA9Xl2ymbANTDdn+PdDQjyLiquuTVcc+FwzUrci1VxX6wqvTN91//044qvsAqf+iu5YsWFzSP9z59vjTHgCybskevSHcf6n72LahybI06fBzMYxyqCAcXCizauegZK/vDDRcVVOIPBecsMm/sOuWoGXHUHXDVDrrojrrqj48JqyDBFj9nFQB+yodkS2j+G8DWu" ++
  "Oi3ULFkHZQv9QjYOPHmgTiAHGqYMzt71fzqe5iwShooNLvmpjUsgmM/4XPHGz8czGJkVd4DvZ80Y4PSAM+CHG9Z412cfNVOA8yfghzn6EvTxkhXmOJ9FTgBdpsEIfd7e6O/63g8rmFVQU4Msg6lEo7H99xcgEPr+jxc1JaXP/8nW0XdCch7PkNzawtTKnOG+8Jm6sXUR" ++
  "yRjXKdA5wQNU5PJ5X+TaUi8kM25mjhuTrxIiF9bFlXfe+/dfeVgMC93TK0tZVZ/XB3uqgDvTvHe6ee+qdCaqnLKqNl+wuViIebEo5iWjb0MoHlp/gYtm77wPx3OQk3NWzEfY6+dD+gITzD1ynSj/hOF+L4wBeC4bf/A4K4mLua8g2DvvGDeM0dOnb8TmE+QHUG4VP8DA" ++
  "Mj+lre1FhrgBS3gfvctKNtwZ2XDpsElzTvqSvvM+/XDP1zgRBSfMINY4+7y0Wcb7/PnSlgmuiIDon8pFdeBQ/xxwRSXD++xDbUYMyZnIMCzeeT+8r+gHBAwv2wTFCxD2hx8uK1ZErpoBK86RFel60RyfqQFWnCMrzogVZ8iK77wffzSnEHH2Fl2WgqLKjq6wSd8HpED9" ++
  "zXANB/Pc0ovX7VG4utIe9Uii5ECOiGVXli1xVZ4tkap6eVFExXSE23W+HubMtNCequ2bts00iQ5N3byfgMWXNHnzfj5eyOV/zfTN65i+ge6kOPyd1/+8OGXOHM77p+dwnvfDmj/QLM7z2Fo+1Odx7zwfZ7ElW1/Vudz3r8oDEBZTL0CP9vj7t03kvH9yIvfOG3xQyJ6I" ++
  "4JRFRQjazaxImB9ELAb3O/897tiazc+aNHSl2rJiioWJWWimuGmdiq3YfYte8RRCqdwMN/6HYz3crEaoLK+G9AXeWHnkOlH+CVvltFC18mmlagW8sSIte+UrCFrMWiXk6dM3YitIluLiFSjUavFqdcrwGMF9hrgFmGnObhTBzQ5ZH4YY1bgLeowkrPyGc24cztmIrdgU" ++
  "22JT1vG39J3/6YcN3/IN1vET28it3LDixuKcm+oaUi/lSaDi8OzyO//zp5vSwIkAbulFuwmo3eGNO/beOPoM/B/pQfQI2uoIFRXB8+ARRAI51kqBIf5Af4Y3r3r5GJQZ9O5I11EwZaCCGYhBHtzUTFELUTUqtGp408a9v0Fr//DDTcW9S3woBrh3heUskXtXwL1LQHaF" ++
  "3Lsk7JbIvTeVgrCyFISNURBu2rS5R9Tm1q42t3a0uUelza3r2twN3Rclsrq0j+OnHc56nsLd6J3/04dpJmLcD+h1LnFNSmmJXcxa5pqg5F3qH04/K/WzECpQ/SwK5St0XKoc9zo4dLwLbucHAlf9ShUqdaiCfef/DMkTlqR04G2kUAEpGrB6GKvAhi1gJmyER4ROGB7v" ++
  "ysRoAqGgXMQ4jy9BrJy8lpy8JthJC5gJy/Gcm1PgIxYo5ZDCRnUsTprZ53lL/mWgBQiypgloApdFkcJISKgoKFNkmcwus63IlhLbCtRhfklq3Zb9j1WRzaySlqySJli/BUyHrTRw1K/AJvo3LZHwS8RCE+bBwFZrrswUU1Itq1XL+IMGpM4XxkyTP1PDGguPQjYqKGjg" ++
  "DOc8ZEcJPhe0HkHfExDgmwA0f2/7FYDI7OjSpyITpoHf+f4PCsIO+mk9ZABXZggjaHGqczIe+u35fMR2pwyPmFo4/q5RKv3Uc4qRyOk1htL9zgdFIFSGpv767dl3/uDYphEVaiP+XBZkH5fqAX3xMiiqC/z9BzwrK0A0MhS+ZMMIX1JYBhKXsmEYZPlmDL8yXqd42yEe" ++
  "gp4ne/GwWHgAA+niDegWG4zIZC+TOljyxUT2JhC18AkMpjW57KFBiRFmjsvE6xhS0WRQrpOggCC5iCFvHmMaIC2myJlU8AWWgsVJxAHAikVfAhuLiIlFAlmDugiACQIuBqBVg2JJfhYrb0x+fOoAC4pkD3VNiUuUC5gNpAUIgEUo8UrGEFygl48ZYIKVgsHhPi0ycZ8V" ++
  "wM6yF4gEIb0AdImFxBeKMDSWo6AYgTZLAlsK6Muoa0FHFMAf8RF061yHsU2klvVQo9gUgJgAKhTv+MfBhVlt16c9+yzIL8rWoeT8gXFc4sMlcBEVLH4BBAWoyyNqoAnWDpGI5Og+ZwKwuu/xEQyQ8iHF9zlwm2wMzQHA8A9pcNEO78eJHMRBBNkQyaBtWPxrxZm3wJm3" ++
  "wJl3yJm3yJl3wJm3wJl3yJm3xJm3yJm/VuwE+CBSgMNiFMioyN9xGHFDJiubWXfYKtBoEPMJxEsEvz/cJrjxNAzYLXDbrSeVH48AZ8gSCOOpsBOEmWiA1rXaW1/e5mUpWIIC9jGlvO1D2jIWqtUjgED9DnQwJehDgkjeQmGaTd5x9nkhJdSJ/Xg7lrcgvLNRiksXAdtk" ++
  "7E4nDuxMoF/eyluV/S88DEWSiewXW9QRw2ATMLaMaC42WU5wPvaL1ighF6Vy2skokYx/QQvazsHTNVDnHffe28AcMoX522QpIOaHX6DPg9zj3k+/6Ne+BPDLDPhlLmDuiMzyC6hFHmBrHS2OxXCILAMJ/fe//DMnwCGh9wt1nMtI/lJuUkRFbyiXiPUAZjO5wNdc8CkM" ++
  "KJ3eK4uuaAt/qOwMDXsRyKM8BQFHlzrZ81ER9dIYpj99j+FJtN+Gak0i4ADLZuZSqkka+QXWaIYP1OIsyYRnQ9aH8DlLeV4GgnTB7X3Kd1YWTlmb0KyfFiH5Zv1sVJQ4zkfsCE8GlCXM0IRBquqFxtwxl5nPQxGJCuE+XoadUW7xRGQq36pAFWj5U0GmXXEdAFhOwc/x" ++
  "TNmQrCMhiEc1OvLPC7+X5gyAIq52wqGRZxWxrkI5lPkk4VoxxvoR/DYM2FA5r/CMoQRAZWaYFiCgpN4QTzMdoRhQcM9Ho2AC5SXsOfOxKCihgOSUIoVK9/wRwA49MdxhlXZZEd3HUAqGPGLIPQEQKIT/U9PnOZ1HfPP4usbcFa/1M3yVj2qCC7pZr38O1AVxI/C6YQtF" ++
  "++e4QSkUSa0U2VBqiszQ1CVyAT5wcJQEaTEbFpqqveFExk8sm+EzpCTTTciV3lVTTZTNIuMq9587FmTeDT79/KYVmfpqDKBH8Of0A8PGeYCrMEd6nQZGHXtpZgETiCwDzU6cwawVL1j3AAYGlAUuBQ5+/HB4jeYl/BbSGo18kJo/TjgwcoFnuXvQ3qZr21mVd1DFqz6q" ++
  "oNsGpxCgTM8yvA4EmqlqT5zugZI6A1la5Fr3DD2hW2aCBFfO0ENL3oyaMYLxXnWRlH576RD1m2wV4SFh5a4ezTbQ10WfnhL0tTyuMnw0II+NRPdlaz4H7GlIX6j9k0cubM2ff36C1nyC1nyBEGhN/IHWfMoJxFdJ2FNCjj59I4jNFPw5/YzZE7TmM3s6Yk+QWcqeQvaE" ++
  "T9hkGAgA7Alb88lqzTH71wn7V2zLPr8aFaA2IYOuHIa/gv9cmMFCnVihEyd9zvLnkE5rkdNDQuf8qHjO+kWf5EV4pfUePxWg/BSLFFRBYABgSz8CuQJNaIKQ5kquLUgsJ8C+0Lv6xaZHUhFFjgi3QxAlxk1YKve7gcevS+mDoqYUQ5TEdPxSag8FCXssFHgBiB+RIHeC" ++
  "K2lcDjP91AeujSf20FIfctpg9PDjWsnLTkHeiqZpPDu8K0F5Ai7rSmpBmFGXiBByRvedItT2dcfAc8RhLfDdh/e4/AiEQLF0QCDpFeLlPyOTSskzpp0PCARmW5AgQv3JLF9zUPJB16GDRrawyOmALFtb8gdXhNcILcSjXOurjFfOLuCsPO1oFoMWqIPNWMbyK0/GmYTp" ++
  "TK6VMe6TisF+S9lvY/ZbUJ4PGqbA+KDG/3MHeZQIUS8MZZwWy2b691p1m1DiXZpTvvBklECZ3F8w6Lg8wvU/KMhfDDly5ml5KkhJ72rhepc+hrvWpWstnE1CJBe06PoE3xnssw1vUEGWlIjZnxH7MyzJANw9BtZI6WVpZ+HeiuHFVfn6rB0OE5ZAvI44aGPyqjQti8YU" ++
  "QDseSw2FV3WSsZN3E4gXfy80WVtywBXYD/96/K8f//XTv5aLfpzV4YBhv0/G7PswcIsb8j7TIGKNy3BBT/Kn4onbtIf5ONsE7GHIHjz2cM4eoEM8+PDDHmCe+jBgD332AHV5ADLV6EupNYHdklVHYDv+pG/yKLMNk6sqlip3/Pjx8fPjD/eeBPVZhDrw94/PZMMUL9Nh" ++
  "SHl+rMCZAT43hKrMQI+bbijl8Pk6YPE/taZBEhkGlAhEkiL/00dHZRA5nt5/FmaYoLrgRU3r6uN0yGU6bDMsG+/68D+Ef1BCdzzenYp4dw6/IOt24IRZ1y5k2Q4mvruYpTsASuAHBknoFozvYIIHoOmugHAMG+EHzRXuvoADjV3sPPg8QcCJCHdA0ieEOEM/QgWMP/En" ++
  "wXdjtMGXPkkOMtP7cTeJ8dffMY4Ovzykw+IlILwEhJeA8JLHS0B4CQgvAeElOAHhJSC8BISXgPASgADhJSK8BIShYyNouiwgHMMQ4SUivASEl4jwEhFeQQAgvASEVwhxhn6EAoRXfCX4cszBna4kXw7EcgKohAIc+rw74sdEfF0aaqnMtU3r1yLLtgF0q4YqTRFhkfrx" ++
  "uiXOi/SsYhqQFQ9cWMo4zh9GYsLlaAnaSTzU7lhwqGYuRrzIVYR2pxARLiP4RssEvomKJedKyGyFvgwcS8xhCFTghadglBNIBD8BUA9+R8Eyx988AJJiFsESfwJV/pGNmMJIhStctqp85TGwhN+RAqZ0CmEVrPIesQRAi9iqypHKysRY1dP5binHrS4Y6/esY15U2AtB" ++
  "P5raP8L/EVV4S99HVeutru3W1NaUSKl3FSmXmIkuYUNlb1Q5G8J6QxhuCNQgsslM4Rsi/UYVrwreaHJvNAIbjcBGkQQaJS8gR0z9ZLJZIXNQc1H4t7JlExZXLWwIpElDiKmWITJtDTBhp3hCpdtLlwnPLP45IvdKI0lBu4qlLDzJ/2JFqeyPdO13VNu1ykVF2Yk1Z2oc" ++
  "ajxhMKPMFdUgPBWxZiqiguZMzaZU/6oVAsOqivHIdlV6eYJLC9QNVcCK3fPVhK1BVsj7FWS6XsnVGP0SwuWqWI0h7F6sJsWKF6uJWIkVO5JrcMLPA0BwCb/FA0aic1Os5BGXD+sJTAMRTB5N2JZvIEg+iFVxxGB+CIC8QAiIpxC5eYDUW8hHQDFHKjtxVKzEEVsDepDT" ++
  "GlKAYOJsRd8tFPJYPIoVUUhHHHHCq7jnWOoKP6DbSFNlRbWVJXlWmpDEgKrTWZwSrBQJV0TCrea9R2K6R90DsfdpdnrUjabTEthK8aYqAD/3Jb8rLqPS7jV3aMZZ6QxXOsOVylDjSsjsrB67ssXXo0JZIaZ7g0Fw5QivHWWk6nZk0eGRstP5vCoptqqEm06gBJlK9qoK" ++
  "IwGGzldK8+hIm8dSXpRY6do+Woy9srN9pJIsQu8aWehOpCnuCFRF+SOdh9MyDmIri5JGrKj2VtG6qJUtfh5tFqpEjYHRrWikyhMR5dlk5HT4Va3Dq6ZWI4quv8VuK5tUuskIdKckuibHzhFAq2pAm3LgBJmAcliuycIMoFgLnFBx/rCWD3Q4ww5Zj9l9AEosdM0HBl2V" ++
  "b6Ajj/EyUgMsO2+CpS1gjaB1S/5f6ogB3LsPx59YCQe+z+/rSTHwpwcC/cw2As1EcL4F3w/v8RZVHZfTZlDeDPKaQWft6P3koPfze7zGVa/spFlZc4uHPRfP4pmxZ85fnuUzxIzay+kf2+X0f1qfNcjgvVdk8I5tMng/3Y8bTY4K5iQecsTgtXgVr4y9cv7bK2bj/3R/" ++
  "/qYGmzSy9Zvp/Ga6kyZxh62V/vjBrvTHD7jXW88Nmq8FNa8lLGkJy7NG2LrG0xu8TNZAOGkGpRPoI/A/mCDqn/3r6jSXZRUDLzerSZJ1mGjdDKkZ0rjWSwfKg5dj8fCg/VqDeqwiM+bKr9U3SfkATWEqn/uURcsUQN8gePvlAeucEB5bmoA4S/PJEo89TVZiAE485TOh" ++
  "80XgoZQTOmIEP/pU0dK2Kw+k++n9dSmtMpiX530OOEUogsYCG+W+Cu1DaL8ROoDQQSM0wXZTode5pIcAcLViIs55/uDzlKMtyRH8PajbjtoDcyKWP4w4tMYDyFsEC4Rvkhwp96hIc0CdvZ96Acfr+7ycJy35UizlsliewuQQ9L3lEGZpK9S0TmECtao8oe2JSg9MFpdB" ++
  "jFdXAiv+SwGK3L24l/fF/SnMHVdWnI93XpY+B8IufZj5CZiRYsQqhIjQSgezKSuTsV3+xEHmFOo2+Kn+9NajeESV7HSL8Z/ev//KYkaGD81GWdZTb4jgmh0TtIKHxzgnRx6e/5Jy7bE0xQknSD/oTNjt+SbLVfSYQy/kpQ8SO14BvbXySrxYZXnlOmYZDLWC3GNmxTHq" ++
  "2pWXVaC40CgMeuO1fdVyrZZl6JLqk3ruXts/KR+WeULLKpXPWD/R/hcIsp9b+0MxWe3dz+zJ3PiT+ZO2dFWZQFUwT0lYZE9osrCXM2+0BvqKeC3jNYvXCYfaCTqwIDclpROL1AHn38Q6YRv2MObrcUmIBHzQO5wQgSG1IAyTTpDEkFoQhjEniGFILYiVCKI7sSMrfNd5" ++
  "a51yq04+1Slv1Ckf41qWcEIEhtSCMEw6QRJDakEYxpwghiG1oIqdyJM/5JxsSeF5prZ6jCDfUQPzEfhGDuboG7mYk3fkYI6+kYs5eUcO5ugbuZiPbMzJM3oYrzMJs4ijLAR2n/RGPPgugu8y+M6CtddaGY8apV4ZD3yeUxn0eW5lyOs5lUGf51aGvJ5TGfR5bmU8uzLk" ++
  "8dYZm4gMGiVYR62oR5Bx1EA9Al/koI6+yEWdvJGDOvoiF3XyRg7q6Itc1CMbdfJEduw6CtZo7iFhGW5rRqZa0TpurVVMkrBeqxh8sYMJ+mIXk9jGBD0PZX+Lh+s4WIetJYZQYtgoMQRf6NARfaFLR/KGDh3RF7p0JG/oYI++0MWevKEdsNbL7+E6a0U8g2yzBuIZ+DIH" ++
  "cfRlLuLkzRzE0Ze5iJM3cxBHX+YintlkJ09mt3gG8Ot+CHIfDZ6AF/g24zrpqEo4Gn87Gn8DufoNxNA36NDfsJ9kAacT83Qkfss2blUDrGvgVha9+KkHUqh0AyWF1QMplLmBjMLqgRi6njiN86BiJ3htut40E/BNHGzRN3FxJe/EwRR9ExdP8k4cLNE3cXGc2E1Dnsm6" ++
  "L2BE19E2qOmYE7FOua5F6vQIvk5tLrRiJMRsHGZm69RFhbypHWDYO10PXAoS3ZzEA/TiSX2QAnrcAmceiMor0Gv7MaDkGnfMo5bLg4ccn7RDCyHbh4kZ8+ICra6OQOv4Jl7FN/kqv7FX9m1XgF6zDkbrL3VM13losrFrx38Tv8nfIL8hJHBY+AGEkaZ1hqV8gxLW0Jx+" ++
  "VlbtD/GH/IP9sQ4DOyGgXEK8it/Eq/xNvrLf2CvogKciBKT7VkcDkFeIfh1rTF5j4xgZ3DQWAeiyL/KFldJyGBSQlP+GWbCXtAAM+Stiyl7GticY23C5nepbbkclVqpvL0M7j5GTamR5Xl9iGzCyPRPbc1KYmoDL1OFEx5dRoopi305s7EI7Mz90ohxKQEsXQDj+OxIQ" ++
  "lyGqqHOnhuZ8xvmLf25DZTZU4NQ1z2xAzy0XIqtyH7QxinU5lQamFMhoAlgLTeXIR2DGxxpTjTn/Lv4U3+Wf8jv7k/2mX4kLLJYZTyUaz6drfmpn/KK0pyfyYBYWIpsNOEvjWcZEOIvxiEABsn7mM5HOchHHfAYT93DOYVI9iwoRz4YwI5jhwo3PwhlZiBvMUswHMohm" ++
  "MoYM0hnEBvA3E1L9ctanX5nOCtwEYAAmAGGIiAIWewGUMUsQpwtAB7qDeuXsojypZYe++/ADzHLTIq5Mlg14UMBHBvDpDWangENx3ivSXjGbpPPZeAa8nIqMnePR8BTtjkioM4eKsjgDSDaTWU/OmNdjc555MzzgeNRPEbMjmWEUzYSOQFMf6gA55/N4BtXH80V42JEL" ++
  "+MxGDOTNzOMxuXqj2XDG4+FsyPuyN5wMit5wztLZuIhPZG88iePeeBawYQiYBQs+DHuBUzZEkaEtu/gyLGaFL8578cTvobMX21A6RL1WcATUxsqLDP7gf8ZnJxxK6J0AYqlTIsN9VTsjDJiJMaQG8kIbpTmek+cSn+tLZiwcCowJg7NZJscilL1sLoa4lGRlmuHe+7zK" ++
  "k/wzb3YOLIY55yLt5RP4twtWAf6sz9MRTOvRNpxMvV7/BI3Qgs+GrQJ1hZMZmjCDHx4Q6kEPb8nHMbjRfHHk1DliPnCWnZ8OCVkxghQhGxZQn2HaC03+4Qwm1JDzEh+zBBCf8WHPn0myFYePjgZAAgnsnUIfSGcw/0CCzVnozTl8oOOw2MFhktrlg094HHLyhYeeL7Oz" ++
  "Czz8BdNy63LGRVSEOb36Zwd6KTKoHcJSqMhQ3xG4yE8FVA9PJit/n4dD7A/Gb45iAT4zKWcDwG+U9TxQOnjek9mLyF548MK8b9BR3n34EU9dI0fKYbnetBALvOy7GKpDXDmezVIHsxb99iNZ9qkNsXbu2M4SFhV+In0o68PgqnYNMWW42V/AJOO/unRT7DQJYChOEkHX" ++
  "COtNcKsXVGwLwx9+/PR+2i8C4Zc4zcQMbTzMhsr2R45mPWZkv2HWryx5AL/NxgxE8cw10CFWBWT6AxG6z2AiVK3siWVBC3rKEg2uueEy3TJB0zLKrgym5MuQLcd4cgt8Px7bBlzEA+b90/vpKIi4dQ5vHrC5hC4L+Eplq0R7JxJxz8lCocRfCIulMlaiQSRWKjHeSM4g" ++
  "TSqB3WenUtmkkGSTAuv7hV2I2EeD3D4+7acw+8K+PLMn8SyeiufRc/Fyuksnz5NdiJ8v/ImJJ2hvOmwuY/49H8snVmiCiRiGCcyJfdmyO9vUxeR+gneR7xntM0MYHlZhHGJkZfAiFiO8pnCbchZExeh2UoAEgPEKmj8vbqOiyAAglyy+zVMBMjW5hQbJpXebyj7LbzHG" ++
  "Z6NAgHvERmje/JYFmY826KOJHOGDqfEEbYSkgkW3noSxAXIgk3UZpgFmBn8qYLoBoLcei+LC6yVC9EZFEdyGfITLTrd9Ppmw8DYJYgYheKvndiQloJdfeLUrQaAhhapu7JSN8P4y3Rq8wxaE6Rw0Pn//T5nwgJSD9xe6FEQMbwpBDWX8GBVy8ghIP4KasSsgIIGe/HKE" ++
  "wd8g+BsEvxbYU37CI6AgBWVIz/0IvE1urrnc0H7CTakU3dAOwk35xspNLn28Q4ZWnWmN9yYTfV5tM/bRYihLJ9oc502EcrZQz8OuqlxjkRbD4maAStUpUF6fQ+Yh97Txsj+BHP9C91N0vzF7FZ2JEMd/6tYzUOT4fXnVulz/BoYtgFv5KmYrFg9XfbzqvvqC9+XxnnuI" ++
  "RqLwznuO9+FXHl2cV7ffV2OoK9O36/F0Pp3Mhx+8FQ9B54EAeLEiWtK1jko2bNUsqNhKNHq4hYK3fbZN2PYL2w7ZNkKDz/iuOD4HfgKejG0nbDtm2xHGsy2Usz0RbBvDP94IoOaBPB8naEOR8iPIbUC54uPiKkPIbFBloSzQb2GqSiWd091+akqxG5Fl9gHDQ3dYb9cE" ++
  "LVDzp/cruhumLBNqiwbQHM/6VC65fXzHoHgu+gxdz+UBexPQZ2Hhs2d1Z1x7AOx5xJ5B6j57EJWD+s+efYhAo/E5ONlzgsfmn7OMPQN2L5AkUGQuEcrZ71ZtymBQ2b9Dvt899v0ELcjn7Dsa3fiOv/ADGX73Juw7JP2TVbWjZf7i90kzP1C9KzBUV8JhEwiYAcjVfz/1" ++
  "mlsocrJmkwc2WY/hP5HofBhDYA7eEbrhN4L/mKLWIfxnCiqQkw2bbBB4oiJThBuLtTwRfUjXQ3eMKyRWAIZIK0Ci3wmQ6xSmP9UsvIxLXvKX0Yv3Er3EL9m3YG3O347X5sTuWO+jqJ0ktU+iTLcDy6xTs7jhLJRImFzjAsMYesED/UiYkLGHUDmr2f+Yf5PyObA2Bobj"

/-- Part 2 of the compressed table. -/
def characterNamePart2 : String :=
  "4gVGNt4bcv4CLP1tzKrJrTW7heA+Z6e0lYDWEX9Prb0FtfXy7sPPIC5DgVeJqZceGQglMC7swbvD0hjeO3DtirXaFDOaSGU/akZXFmC6B1gcv3csSYGQKlA4MT2SgtiSF1l5k8Vs1rHHlD3ipvrPH99f2tt4I1pUWZvuCWy1jtk6YcBTwC7ATpd0PrwYJdABYbwc4Xlj" ++
  "cmXsSEB+n97fQhOh49NF/VGTC2fH+Z8a6EDtQrMulm50pow0oeWijOwsKWNMoTHBFLH5gKwtgfsLPdEDsGSnac7mYs75IpgXcykX8wLf5WQFX2A9fnw/V2eq1x/Xn9af1z9AGGhmMR/3CIWixIFsun5h9IoM/JAXZOEZ2yElMXTEHs/YI/rUizEZ28HfREWC7xH+JiYS" ++
  "r+/sYh3HdgEk1FEJRUUqKqGoSEcN8C77LlRRA/Z4yh5DHQVJfLbrqyhI4rPHvsES0pydahwhCbqVhdpCBcIvVLv//s65U0BOnB9B50gfGXsE5aLYFY/8kfFHuWOPMKKwyY5NHovJo1QOPnkUkzuzQkCd/vQpHj4/RU+jJ/+pf1feFzj6sD2GQv33dxV/3EPkPW7DIX/c" ++
  "I3+sgT/ugT/WyB/3xB/3yB93qL71ynMLmBFXmmfI+MOp1qy1opSUyt4M1aHeSPJ8RvodOkAxIse8wKv3FIU3MdG1Oirh7w38vYFfl/A+S8ixrMBXBnxlwO8N+KrMfpYXOZ9UeKXSI7TwF5PBLyFF4ZgIHBolcN1r0HsNujagiA78LkvIlYZcach7DbkymcLMaQhEzaz+" ++
  "pqc396NqYgP6TznbATVn6aEBTrwedO9pY5o45TlVVw2XrpVMgWdH8Uo8NBX7wK8TkEVszK61bXZ9zoV6PbWs3edGpK2cQe7UxzZneB2D5l4U7WE0xXnsIWMPnjYJilbTFUSK7Y94I5DywARbR+Zl8lzlS7XVHRGiNgMVm9BVj0SZDsWAiYaiokBXxJMc8B3rYFStMlxx" ++
  "xtxDpIjqmKVxVFBLpYREfGmuHF23X1JK2e8hdvoevp8L/C2uq/vkJqSWUvU8fFrHyJCSDj3QlXVghPJihxNU9sN7beWTjWTumDd9wHKARfH8hL6XpS0jbAo0jYBnpdStq83kQRk+QMsHD9SM8Cu1NSsXaSV0P6yPQVAX5ibPx6dPT5/nKRnriOaq3EgBHKEgHsFIBRMY" ++
  "9uPAOmXlpZMkl3jJMMK36AB7EFnMutvygJdPQKhsUKg8oFDZgFB5AKGyQaHyQELlQc0E2M/vry3J8peTM03GMShzQ1Dd2AgGqzGL5yOOD9fLydyXI6hY9SRrKnO6FY8MSVUmqxD41l18D9NPSJ6je4NuvGIx98A3hKJQbSyJYF51IfNZ0SDkZ8akumAwNYeZ3RFqXTci" ++
  "HuCy+uTGevoSrfLfwMw6UedPbs6OzlR73ozFcBhO1BOoKoTeKFD3LsmvV2LqweoGKT2gXL0UpZ8VUhDowcbbA5Lgvaw8AKmkLUya0poRdggl3pKZVDa5wSuucc85wTRWIK/6aoz23uKjB2U+whi1xIuYN+pMTzOSwm/Cekr1nklHShWpUmZoLwuqmzJvxM3TETeW3Uwd" ++
  "Uk6OzEmi1AtMzcMis0ENidxg9WK9aWTb5H4bgUSckQm24d/Tv+fvPvRBAe7TI8uZNjRQhAXUwOORfhFh7nGPA6cXKTJoH2Z5QXk/CvvspgfI0x0Nx1c4PuizKUzyH40/ZHQyku1MAEfwJaM8ltJJC1PtHlpTSkisw6jVG4IM0Iai70FA0lB138MFeGUuGk0c5WK0joqU" ++
  "jJubtOihIG2vKcZL2SYyBhTRNFMO6e97aHUD4LFkv1ALgPcgomBkgwEEXBwgAbfIGhtpORCE2pBtAHhpTCun0EVBKNpiV1XsASj9iCZlxAOaX971RFjkD5pSLwbIUOqbCcixtYbPCkqFvaDbxCc84fmT9l0znw97+CmtkDN8QR1GglWAZw3QtczPRaqdXMcu0eYrOc5x" ++
  "pkQulk2ACXRqvVx8EuOCaP/z+3/OUHWCV9Vvgcbseow2365hAiZGtFQcD0csgEQjscAuBp0MoCPQVqFW9Ewz4qUvq4O0eYLwJzyoD83yrae49Qnnogwj6Ag/Q7rR0V2f7yrxmvMhD/7E5dLkT5wJFeE/QvHnCR/KIYt1iFoG0WEQ7fj/7GPiP4fSvLV2hK8QKLnpF8P/" ++
  "jQ3/Ba+a44twxeg/2Iiep7NggAjD/xUQ/FNDJSEb/Ucx+lNFAoqKTD0ymgCTNCSX8QDtYUKT4cJc1YUBfIKd9n6Ipr7S9Rg6rV8tguHsksGUcsXv0UykXvZSNiJxnetcG4iktS8yAokrXqdoB7I0AolLZGMypX6G6183NRUFWkpgA4YvaE8tZa9iVNgGDbHKAfD/boKc" ++
  "j6a6oJV2uBw5fIyQgR9jXoTYasaOY8QYDxba1mOjNLo/hKPUn+PSEiQaRsgm7J8zlliapjSXb3mxAnxWuPSj9K/RYwSSExdoyz2JTICkBZwLkMw4w7f8tBSATznSrX1aHpiBlEMLWrhnYUEmtIZgAcdq5aCCGGOSEfyha+hEDXFZArcTUic4pYUIKwDm03gMEJdvcigP" ++
  "t9K0G6bfFVjmIJLRWoaVy0Qth4ROYKisr3vwA3iAmMStGrVenssoEfZKB1/pitBarFgRRXCFlhxyVdyTAd7Mxuii1vjxcBNcID9JEPrXuPQdox7ZH3hmKV0ZoAb5HvGcj9bQo1jahyEkW58UfhGuTeJpyBNc8iwlJW5pKSPSoWtEWlmQ1vaicREiMbADgu3TN6JvnilD" ++
  "0+fafjQuagQUg8ajKdGYzdlly/rOLm2YjibL0Gg8ml/W6DDaRttwG2+TbbrNt2jN4siXW1THlbFiEIh36l2LD97H/qVtki5nR6kM1yA0cpigTaSMTJDH0yM8EpsFUo56yvf0zxmF/uB98ksL1aXx7anEW8Ug5Hv/1Pih88MZWL4aggxbhTAUg4+N7k/uo/vxMhRLka0C" ++
  "kGirdBkWy8Jb+as4Xk2WIV/yZOWDb5VCFEiHHCb0q9NVAOMLoFgAesPrIWMB5Kj9DMeeo0ZYCgKMXcP0kZ5zvQa54V87L8EWoNj7G62/Kd/Um6QiRMMOjn5Gz7LhU4B8S7vZIR8OUTnk25iU+Z7cjvG1Np5tc/UqHxmqNnDgpbMM5hb3y4Tl2yKGYinXYgTt8PP76uZ3" ++
  "lLPTtEDjbvW7+t9BwfkOQvU7jK7fefz9VMTfz+EXRp3v4ATG+h6y7DvIh++A2XcAgmEa19DT7ynj30EiA2j6vYBwDMOr79/x6vv3L+DAq+/f8er7nxBwIsLvngj/RIgz9CNUwPif/E/Bv485uNM/Jf8+EN8ngApeff9eXX3/DsM6VKrvwxD+vaz3d/v2ejU82o2ixAJo" ++
  "ChP2DUUAkvu1QNNl7JuHg9Y3EPg4Ocax5duIlU6/cvZLJ6Dgv58qi820DAYiDK0jsFt8NIHdJqDAAA3MpmiQBacwat1O2EmRqlSR8Gkyhmu20BQXlIsVz4Z4R4Hmk/YGrwbftoWNcE0AMG+Ju9Uvlqj5kVXMnjS9zAtSCdpTanbpTWZ68mG8Jo/yVbDSeMtt7Ym82vuW" ++
  "t6A/GTSyIBKpaMUds09PmYJsATBvLagdKR241riUs3MTr8ONt0S6AVjGuCn1HhmMkmsDUQXdVma/QWFLhxLfSkKrIoEoPafActr9u5UyF8Cao9uAnwky/qTexzavYri+NCc7ZW5gWXTRRyuwuexRGXdoB9a8mWeWKJgVqFjPPGeGc8yLutnzW8vs+S1OtlAvU+lSMnaO" ++
  "qW7LFwRNiMrHzHTbKPPuAxpRVxNXY6aF5KMRUOwb5GJLTC0KGL9ohaenNP1e/8V78V94HnxrTU26Nn8W7XmcvIxe9BxArWK8RC8ld8Qv8humlm7G5RuH8pViX+30a1NsB9KyqGFpriHJtX1FSbanTirk0hddUvrtpehAsPjm64WkcxwivukUUXvmpy/jl/MXfh7MTqXw" ++
  "UF0p751mCajncT4DiTwdQscetbfgEF+EfAlZ5LOXRLykgXxJMlGNh62JeNiwZVJyxBPf9Z90M+/8Hd+V1ee74S7Yid3JDmZdu2gXV1HxTj4Vu2SX7vJdsRsv9cOtW8NOWxYmQeXl2/7W3/ItiMAx2yp22TrMsx0av9iiMgYzmq18pLbfVu23ddoPtDUYnrdVU5gsou3p" ++
  "Fsi4RTtgW0VLItvW52EZkgRiC4Oo7i2gQOpXod0Fn9f0tXg91Q3SAYTFvFIBr9Acr5Dxq5WxDVnwdd95xy4Xoc/XfkvYoCUsagmLW8KSlrC0GfY8EFlAuinOph3orCWHvCXsvA1OaxdNljM8yuPpvsW1dR6U3V2MQOqAWjcM7mpKlrBFgtlXE9IMH1pUJA5ULYuiLYsC" ++
  "ulNoHuDVuehGQ0NRmBxpZhrNCRu0hA1bwkYtYWFLWNQSFreEJS1haUtY1hLGs6Al9LQl7Kwl7LwlzLy9y4F4tOCOoQ8oENoiDCFLRiRdgLeCKlnRGlWKpj0wJH5aY0R3cbI1qqRaLbxohz5vhW70EP1WuJaaJEK9R5US32LeQl/Y1iq6HWxBA6TnK09snt1qSVXK1WDr" ++
  "9JhH6Clb0x/E705SnREd3eX+ETbINmyrwKvd7mVu4TaqmrSUyeYBeVS0+HCr2Zi2CCgrN+cyM5DianCSaKxom1k5Qxts8yb/bQtUWx5VNy7zKbanTaROt+ePrfVS1D5HQ0kg3J3tJDxw3bMf6l05uwZZzMw+zW2RQRNl5rTHTcSAovERgd9QDkcqyMRQ2A3FmxgFpoLs" ++
  "aCu8baMi1TtF+JJhvRQKM9sh9rYYbZPIIaihI+05F8NzNtR5mS2amyLVGqrZl2lBYABheDpCs6nWhF8Z/03+dvrq9UD3QSurr0bo+6/A26/DZbvOs3TyHr2G7XDh3yMXMm6Hi/+eLmvkAk0e57mv2StxaPZ6/kr977X/G47uJDleB6+hsTOq1iKsYe9Vy4k9G3yvySuw" ++
  "7GtxGHD8ah79NpuUJvsqoKgF3BQJXX/XbTJip5MRs7fjHmnfrXwMXW3D0XJIuYvWT4U/5OUOZm5t2N1yoJVh5VtVfysdsJROxsJIZnmPfynw/o80+54tj6zfNB4/j3EjbxzXH1PX2kJ9laV64l2BuRp6M7qWvl89BK+nV45SV4/tTt1SeCO2PXW1f9ya3Iqupfe0hFa9" ++
  "iAhHssDNphOqlpu/lxL+AUr4eynhH6CEv58S/iFK+E4dWxObuI6UlQTsLr8BVMtL6xtKwhKhSUC7eXUBHcyrpWm7gNrz2l9H/pfqSNJuTzZ2fAc2Fj+S5GhHpwFVy22wl2sHB7h2aBPQTepG1dIFe0sNDpQa7O0rwYG+EtREfnvqMrY9dWtPCfb2FB1rSfnW1HZ8+2St" ++
  "k3fEQd4Rtdp1dYw9cLUc9SSsJQ8npj1VRwuODrTgaL+0Gx2SduHe0sMDpdfj1by/pQfsA2zPs6tG4RtrtF9ChW+TUFFni0Z7WjTa26OjAz062tsi0YEWifeWHR8oO95bdvy2srtaLj7UcvFbWi5+W8tJu/939OwOmEM5dUjLPXDtOe4f2+Xbxnb5lrFdvm1sTzq5PdnD" ++
  "7clejksOcFy6N3X69tQtrJIe4Nf0rdIrfbv0Svf3gfRQH8j20iM7QI9sLz2yA/TIrFbWU6d9WLTBtefoMcN3+3NsgztQwzfk2gVbyznfS/n8AOXzvZTPD1A+3881+SGuyd8iOfO3Sc76MkBbVh0w7Tl16mjFQR2teEu9ir9Ur70jQvGmEaFoiNOOIWEfYC3PU6tkNxMn" ++
  "pj1VB9edHuC6sYpvGXycmPZULdQb7xklxntnGuMDM43x3r45PtA3x3upND5ApbO9ZZ8dKPtsb73PDtR7srfsyYGyz+sdw03ejG5P30G38wN0O98v0xrR66ARktfIsx5bS3BU5fWkEVIu0znGQddqFbZGsT8EG5KdWrVM+ru6TUTuxsATsDTp1dqPtn8v2pcRO8jGDpCN" ++
  "2ZtXzTZvRrent5fh22XdPsA35dkiN/YBvinPA9Xuhn5T7i3SdR/gm/Lc38ydwO15qwWP/Q1WhzmUU3cz1WEO5XSgcVoBD+XZ3SR1mEM57W+INrj2xcSOfPiBfsv391t+qN/yTgWA71EA+Ft7O397b+dv7e387b2d/6Xezv9ib+dv7e387b2d/5Xezv9abxf7eUUc4hWx" ++
  "l1PFAU6Ve1PLt6Xuwl0ewl2+lWPl2zlWvpVj5ds5Vv4ljpV/kWPlWzlWvp1j5V/hWPnXOLZs1vTQIlMN5EA+3W1UAzmQz0F2bMIdyLG7LWogB/LZT/8WsI7peHs2xYHeWuzvrcWh3locbvfiLe1eHG734i3tXryx3Ys3t3txuN2Lt7R78bZ2L97a7pPOyflkz+R8spdb" ++
  "Jge4ZbKfWyaHuGXSqcNM9ugw6tDL0ZiHGcz+wtp+Ry1yX9rTPUlPO3ANpUxaUcUIc0rX0SerY4d4IEz85rNMsN/Ird6eQXtpKtTyV/HyzIkmbxWb8FRkiYx4LCwgK7ShB9fw+YNS/VHD548aPn+4+Pzh4vNHKz5/tOPjKkL2Wdf/MnzefRh8+KmhoDWK+pNS/Vkr6s9a" ++
  "UX+6Rf3ZKOr4fa1OuU3fbwT/rVbIt1oh39xCvrmFfGul77c3tbeLzf/Xuc/VNKWDzCslea0h81pD5tVF5tVF5rUVmdc3kaaGzu+U6PcaOr/X0PndRed3F53fW9H5/Q20kZGgVd//8p7wqdETmkX9F/WEz7WeUPx/pHf/FWmDSP3cGHpttCgZgvX/rUIA/f5/mloN/nNP" ++
  "q/Hh/z9J9zo+/7+V7tZYo+qN2a0dQazKx/CH3Ab9RqBVD1WigAId9q3Sr4v2fNcWTSosoF1/er+uD4ZUnUkih5yMFrlkd8NrJN2bsgvCJfveLDoAWptmb0Z74Q4pCyqHVGZVEpsP3Ig2CnWm7QRpoVFnJl0Q3VTqrstewH0DfpOq3zp46NtBHvp2kIe+HeKhb4d46Nsb" ++
  "eejbP8lDLdRxiflbFwf9dpiDfjvMQb8d5KDfDnLQb2/loN/+OQ6qi+3/Qw7tH9b+DznUxkX2cJsyL5j8pk4S/NbV7q6vvWlhoOz/8JuFxv/2l4YNhcgfCpE/qlH5j1pFRhLiRXbhBl8iwS4t9QKNLk5yMTo0rXTUhhZZ5vo6a+798M0q49/eIOwaOsifmPk2byggv9UI" ++
  "UOPSJcIs3zCTUgR+VQR+delDOf2HVnf8H16dGVInJTtnSaqo31VRv6vZkMncv6j1oQMVcJU1h0la6vDfSZFLA9mYWLtan6OfvrWCLaj8qVD5s2rBTVk4FXvRguQDwl2Y+cPguFPE/092x8Ff7Y5NhZmq9Ogi1NotqUpqinT8/v37KY97Xwrmf43UT6yeUvqqn1Sakkn4" ++
  "I8DuiJsgNADkhmTirAYihkXKtce28WIyFcYZMDR1R040NQTY+3hpFANuYxkfkQmm9Fb9TMlQWy6P1NEOvDY2VQbeIIyug1GQeixhGquLiWxEFr5UmEYM6h9gzfEXqkpe6w3YPkun+j5e+XYsHkq5pJtraDCbCtOPpXwp0GSHucemEOqI06GQzdHPtbhLPHlyZG7iNqJV" ++
  "iRqp1hLb43ToP1HiVzYc8vSrSu+TZ9ovQuDAaZ6ixVW6ZKlD0M4ILiqHnPkAp43KGK9FWvP2xVdqD1VaAo2bT5WtHfPyxLTl5exa8/Ooz30fKFrjgSo8kUnPF6kydwyFo9UWlucY5WaFBkxT4fNaTmWwNvUUS8VQhrFpiTkMlZW/X+wntinkayoiblogIY+2y6M85bVr" ++
  "8l7bgNcOoMdSoLFhHsScSEYnnlrY7FLVYi8MFD5AG4761TSDZd24/BSyABpINK45JTOvyP1oEQu6BSCGppQ8Oloq+FfEEk0uYFzZrPQ8gcgi3SsNwwwwHUmEEDuf6k+OhVYlyL7ga2qmT3XGl7xvWcKflr5GpewAN00uUGnBtyHIHF5utZEIPeQBMmBFD9BRSyizvqpS" ++
  "F4SmHTKlM8eKAqMqr/IF+SlZmITxinqMAczw0YohXSbX0iec4H3xiKce2tCKRKwNzk6zcYE3yJGE1aMepnUGUDoewLcNn1EljZEnO2qK4j8tKqYzz9DYQF/FaTOh6ex2WJlYMxfdcKfL/9gFVN1L0Vo+eDNFG9xFBInygGP7kE1R6mtjmfo9PQoMsCCsDUuSEGCoRKi+" ++
  "yPChUGDFiGc31Rs2aJ4Xxroffqh1epGhkcF6nzehA5FmeU9bTjaBdYFiwkUciL7I0f5pxLGC+Kosvqg1nCKbo5GwtjiTDBDtQzgZlcoC5qZri1SCExBQRvowmGdfQSuoh02zAqSUtttAj0K0WUkB6vz4ae8LEXeljeM74r47uoutQ+o2me8ahpjbSo3/1rfwuoER5AY4" ++
  "6ZaeIUJUbgGVG0DlFlG5IVRuyBRoicoNoXJjodIwD920CQ11/fn9fgs97JW/ytczfUM/eB29hq/Ra/yavGavOaRnoDUVqTyqHqLCrkhMreV+cc5BkKjwAcIEPXxlzlMhoUCrvejC0UO5YlYGQrPhbIfc0CG5Gl6gB8QalI/xGdYv2gzl1KdzrehCrJRrJBLlyIshGvBV" ++
  "gKgJRzpnGM7xncCEx/GkLFenHhZo+1292TllBb6BqcsK0skpyEddY+itpkanKT4XX6SxFEY0QX4RPZdIePB4qCsiYnp9x6paXqQjgbu7JQ1i6O5ogg+tnCtKsZjlhiZ9PeRCM6YaA+hGnhSaQpmMyAFt5duG25VlEJYmUsaOvQA3TL0SZSt+PWPhnF7o6IhDm8Agz73R" ++
  "WGRc2RvQGbaHVvYLmrYLVMgd4GFyr/Kgk87thTpReWXLT+VfylntB76E4YfM+ovUC/mDGmAfoHkiGfsPKhS0YW9Eo7TCuIGllU+GrwnFDyM+gQnLQ5HgWNgr9RClNoZQUTUQ9kB6Ch86s8G4rnNrC/VVXeNC5ObdN2NgnYY7NKVPdie0uYmKwpbdfZPRrSyN+DdQsIZw" ++
  "wxTq9ChL+73Sjr+V8x6ouS5Wmauw6abNWujxXmH77vgDTMeY58kiBtVz8NX3U56RlWqJ7yejtDqBkUcrO0dAnAKUEDMz9L5yPKvQ83iYiSKbkhUQrjhUEQz1M8j3bz4DmrEp2nNOe2i0NgcmmkLT4eA/9VU2A4YPEAVcUEwlIoeXpsBAaUFHNeNvQQd+wTQJQQKOyhIX" ++
  "RHN6yiwRppDSelB75g248FJL7inM2pD8uq4dSIBgKSJuhGSGpl17MJqjsMFeIJMJtdJXt5CkI7dk+6WOT9qOd9qRA0xzoI0pC2X3d4SzgiwBEsGsmqenwujnOQ95EsiY6xEG5lWWdMTuBGKAdxRzPoWaejppEBkxrPVFaUJaUT+fGuNrzZMwuJA0HfHw1Ahe6N7YZ3V+" ++
  "Ndr02wvwpqiAR2T0Ujeew3G85Di+GBhkTNCgXkikGUJOWYi281WGfZ4b5xC0w7DkEgAqY0Ss5oc0KwFRCVqnMcZpcv8yHTAvEzCscTP22vRWRSfigSz3zR37ittEzOMjfK0xK6JIa86qMjBhzI6gtcWgMk/0HFrThWZ8uCftpIYVBsJYaqL9jULTf8FH1E+AAyW+eaxe" ++
  "HjHZsgjVRpjI0iRXte0I5hQZSJcR65elU07QCMqwN9kGx6cGoaCShqdFOIR+WU74iIdRp8sDfMgFH7VH9yYQqY/G4EHWgStD2/C9gRjkAQWSKyND8dpN9uKNW3WMMwAe4BSFnCqUFEfIg1IqT6aAjIeQMb5qYkqSgukXMoETUFtSYSGGzAGrBWY6RzwWkOEcSl1gXnPK" ++
  "a47K6jxHb0ih+Rh6CoADxpM5ohaA+Em5PydsjAcjzCrCVD/hVy/7bS/kIF0fVNkPquwHKvvBKvvBLvvBKbtRarW44fU00iZkbq99VM/tWAW1WWcs4bxaYVAZfDGE06RHEazHWRpOKOChLMjKv8K7zm+0rKh4yrCtmiEZM+kw8OKMwNUVpkp5MT5LLVABtSd9pnXVCNJb" ++
  "dqemZNG/hw8uqoALfLZRx2Vo+b9XBVxUYHWsbJN6DZycyCrhmMzK1WthhVag2NHQRBaZH7aJ0IiwcmrEVaRpRLVWB20BdlSGouqJBjjA4BKt00RVcCOrMqbWaHZOVmMZVS7j7fiSmcV2fCmqNREdJm1PRFEW/1RNc9ts16oK2pBeC7eak7ZJtUL1WBXdoEIT+smCbscZ" ++
  "VKYYbz+arNoz1VBlvlN3toJGeGkpTM0zVE0ORNc7EirHNF/DZqxTHk3FgSggPbNRDxVZQ4ksC3bg04zbNwvQLfKtIpFpoyZshdtzRau9MxGd12tbA+zL/1tr/tXsqLdXDFqxctBrE4GN/Oql3CRMpEYeVDRxQ61EbkRVpBvebIh64Tq8jaq1ehvIKqR8CKzWGX/pOTsv" ++
  "eyV0J0x7MSVhnMCO/CyyOMGWTKnlraSdE2h1LDtcDVQOpDVeOZCNtPbIoh9DawwedngFnn0p8DW8lgS1mBa5Zyb2dXnZCWK1AMuCxtjnBNotYIdbLWAHtwukaZcssgbtQOT1Otph9khuBVdoHMigHPoecKOG+9B0LPy9vJlibYT+vVyNAc/cbt7nnpW2AyNVzhiUvlbJ" ++
  "rQaIhgZkRRlebVTe6UrKFCuJ5kaLOzLL1erUpKDeGln7CF5bleoYGOtQjSWzNqhfujj0bWV2ALcX3Q6sMcAh7qhL0WtGWiU0I3EyiO3uyQi6eARzPNzTzQXtUAxo8xE9U3zpCjceRZZnF77kWS+WufJPeZTgeh/PYXLupSqTmPVDNuUqS2jTKYLD5MEK0QsHVYCH7Cxi" ++
  "oFrWi3B/GHVBXZKOs6I0OzXT6PdzYcaMxdJkHtx+4eUXnjSuanpf7dP9eiTTo3LfYkq7ZeD7KnDPqtwEhXqqvb1puTKIU3Pa+lYru8andhcrv94ZBbzyqVf0tQsnh2gHA904y5ep3jXK5dS8TWo6E67LTtU3go5Y0OBK3iyBBiJWUX4fkPZxt0nTT/lpvx6Qoswx2PaH" ++
  "cqgz8K8AW9pTNo8QF7HavcvxiEq5k1v69QBR+rFVcN5fBgCqA+ZZEKcyhGmklaJU4EzQTSMTVwlsRBOLAj/zaZ97rICJQYotbBGVmlS1HT/zeJbhi056u8+CCmQk0fy38KbKwlDVvmYuTOHV4lzIzqED4N4/p4nBdIzPFweG74jUKoniNuVm2QR6jtR7x6XhZNVVOuJY" ++
  "Anme0UKcFTzvFzk1M8O9XTczLpAwPTdhjN2+AVuz4KwQqYU5fsiljNA8oKuGPdvEgEOcshB7OfhKkpuyrTgjcjy0LJOPOY9VhZkXAB/j8nooIpE389hHHMQSk0L4EJfWp8aBEe1J9Dah2rOc6q1LtR9OXVzEJeivVppUrQqjxiTL9dLsK1TRHMSBcBiHU5Mz2aVxCKVN" ++
  "Z096PqeuTxLKdPX+pDwuga+02M1UegS+6ET9WMc4Afiwhpc36I6vCBzhW0hOi9Ib3DxtRljgqJV3JHCiqiSGVdtTNWKjwsPHAnTqX23gqeERnaCq0C9lgl/sBF91X6iQia1qXTmIxB0VTmukayGSFRt3lVjBtBbb1TZO9etFl5AdxdrwzVKr1EnKPVQYQWp7HucwCzUh" ++
  "DheYWCewBmnVowZu93ozSOnE1xp0ijv/OIAO/obr3LzSI3plzFUVU4bZCFUpHTRLqVjl5LT4XZUsdutsoElNsznVKqkRB1wc5jBo5Vc9cpUHYq7VwKo1AyOYLkG3H9IpEXDb0srkZwM44R5LropkqpRsn9SXKxpyrui8zZXv6DLXstJOrhzd5aqh21wpkXVFp5gUvm35" ++
  "WzlqpQWfJlA6KLlonkAu/WwBDIP6LBq+isJDPHtU4MGmFEZoM6rY0xuty+IqMYjCcjvNhSnfUHNA/1YyGkgnNSpjWSUDUqHAHENmPS3+hnwrtqd97h6+bEk1Kpm+Fh7jHlaIzDdMJRCipv3WolvAHW7ek9SBs7imHAQVa0YsmUJ/gLEVD31AficF0gDPeKXiTOmCHqNT"

/-- Part 3 of the compressed table. -/
def characterNamePart3 : String :=
  "VGfQsjHoiF/LFlYnF5VNwdS7MAcItO5tqZVzmV7YauWF4n59kqFknK82E9FwWfpK/iV2m/blGI/QEXfpioOaibtBuCSpzoCVSphC9iCYOuTYlbwZ8dXRCc3Iju/IVHWX6Rw3PcyKBgmRayUvLm2CXCqCJCL3AuDFkdYI6CC9ramXYt3YiXDHgjIUMJv03BH0xhlCqpxs" ++
  "bal7lLGhqgGjNfTOTnhnOshdOabUpX7JqUb8lwHUUWsi0ubr2w5pOG1JY0vluhR1JHarwtI17reDlEKhPbqUDe3RGNIiJtpmxE1x0ZbUIc0bsqnoX0pAcy58al5dbTkzjnJdL2caq41lFAn/rshqJcB6McoqQK2BLB1xzIBqarrfAGysL9QWdQ4lrycsjVEuUbPFhcD2" ++
  "AkxsPZxGAIigjfJGcVklxPdUfv4XK+/m+ebEbjK3uu1x58hL+oFgNtQrMVkgEhLuPDfHE4AoHk231eoT7gZzZJjy3Z+p+wwQTt7xOJU45V8hw0Q5pzDHnlhXPDxOT61rEW18FDUIZTlOKbd+SVLDwqz/UuUBriluZlURv1QR1fuXUp9v1LIllOd4ZnIKA98040Ns8b/h" ++
  "yGIdBVJHl3g6TWRGEzp8exf1P4A6FXzsMzxHStnh6SuPRBWNCrgKa45exnbhYwYDBFIvHYIelxHeCllaj/1F10EtzuoKW/GXTnz5yma5kmI/tlkGDqBJoNp4qsZpMTNT79X4Gtgim0p1ZGrEJ1MYwWm7kObihMD0DCfSDAmUKx2iL8+mANuXLPWnbVco9K2CaevdCRPp" ++
  "lIS5wEQxhmZSJy+n3gTYwwcmxIU1er2UXg8/AlYbYOX0EfAJEIZOfxWxLHLg40g/6aZGDewkalbNElyNDEFHmdKpQOgRMuWXmYhBt01A1dAH4Zk50NQTR33Ooi3ukmQB3eja4kdJ2xe1VPdKOtHLicxflDa/1ZuapHC+QviWdHik87Y8/Ek+you8L2XESzmevdgj17Za" ++
  "RD9lMd9aC8nkp6xqC+0v9fXtbf0I6rZU8kup90grHYS7ypRA6MrMN3qbtUqCVTM7ABUSzp7A1jx5puUPvu9qZw7RlPULhJewmG+17VDlXNuK2Mmcl2irh2OrWmhNtYyGPCuPJkPph4KzQHIqGO/1cNXUZTuapqKFpRLN0ooyVarykSJceU9oUdf4dJ5WWiQnla7IorTa" ++
  "yq+U1QreUWesfGUUsZ6hMCXantOXslEhj+aiTFV1qlepT72YVatt1eo6M9NS2otnFbdpILd0bVM9Jlzlam75lgF0R7b0qauepZcSky7kBRwIa93Cs2YsHUc1gFQFIJSadwxRMvV5WJ5JdA+X22/hot5dXa/S4DhqwjQZhjuFn3XgFyRLti+aR1ANtN1fZhWVA4kOUttu" ++
  "ekTS7znRuWIHyymPaRxWaVgIHryhcspRPJvggIdRWZJeRXCFerm64QVXZqpHVJz2UXkoD19osDQPrJNSUDtpsoeeJIGpaUakC59kuX6oQIfQhhUZvxT5EYjhBFTl4CifJCbNQ2j7pgmMhlCjo6QIwyNEyiRS8bMicQOmei6nLomYUHWNB8azaSZJ9PGj8jaTIV+rYEe2" ++
  "n/rcE6RHm7tNNn1hTnAqsJ0TmJNMY36WK1cCQ1OuT+aX9A85HpV2wupXZ0DU4dlPPNK0gszUELVSV8qqI1AdKe7LFPdWirZbfiqNUhgeylQPKpXWI1qv/9kJN2XCjZNQaSY0YXaTqaeQVbdKBEym1haaboIya6MEdmT3YGf3YGVn9BwrJ4vvqUNWMSo/dfs07alc2so1" ++
  "6xx699WAtlTYbLSV+5J4sOpGKWKkobl0NSqaG7rRh/Wb4Cnz1T6y4lOdL+FRzQrkmZITCttmuD1R8GCYwMCjD5uPmx83P09plwHmD4bT9TOnZS5kkNOo1/9qK+F/lBZuQ/6o1P/YETp2PGqe3bFlaeq0nJZO3ZmWEB3ZlvFONXCHrztPiu3IrytlE/6xQThsrH+1dHkz" ++
  "AxngxjGMoDBFKIcMnDK1j1QVD5sNNGVy/ZomnMQ+dHvqWt2hUqeuIMqKRz2fYrPryllBPtD9T/8mFRlMgG+gFIaOa5DkObmmINXILipq3dMBzgCxfpaIMtxtByGI02UMkBuIYCByc4lbxFmAI3YNviNWjaGAbMLPRRE5Uwabx3ALjSHbxrh/jK8dk4N5Zgwp57h4E8be" ++
  "QzfjAj9LYFpYDjb6mnJtRqOXCg0DXriToXosDGudcTQKdsbuL7a5brAfkRb4WgEuZMsKOygmDAZf2ucHWstEzXVxvTfVoeW8V2WCF6jpWhsusSpi6hvKLq6m6FkHSjObimWgS75ybbsNc1V22S2hJwH6F1odQr9aCZgmNAio1r+QoKIMzBWYKxOahZwnpRLUx0tGuJs6" ++
  "KRUd6y5HDLrOLc4OaK0Jp+SA6UMOPf1Wr/Cge52yGCbvGfb9GUw808ktYBvLMWh4Q36Luu0dzt/Ipoclt0BBK9SmxS0JkAHn/m1ZbSuWdCaKBYUeyDTElQ+USrdZIHCgLPKViG9ptQNyGvU4DCIJv+N0fQo14FTSDYZnkCoveObrmS4Y026MoEfXK3SzSewFKSiQoEkJ" ++
  "GM/Lmlq17PWRWwCb2OOhAVCccYtL8LnIixxSEhq3A7otZFS2W7UCWvlV01kBRYzXt0uvopuPb2VzZASon6XC0vTBbjI+RmJq+FLdtNAqw94df/r0fio9pab84qEpll9wb+CX8vQJ+aAB816/8EYh/xXP5gn+K95lxhUBwEUdAhjoXcdfYBarri+qqdEvuKn3i1cAv2Iv" ++
  "M7cb4wJX8X7RrF7O7gGjH96XkwN1S+PNV22uVKbAkvFC3XpZqFsvy0BAZcBL56HAsQSmQT/eEkIvXUbCAMoMHZgfOSCHOJ9Mq+Hi3Ebsbfdw5hViG4XYRiG21YhtDGJbhdhGI7Y1iG0MYhuD2EYjVqICUwacQqJYoOtSxnepbkyVkerSVBmL3F9F4r2bKo6uRVWRXK10" ++
  "lv5Y2KVOq0raWYRuJpeq4lXAlSaBBWKIYQEpslgwmkAWiCGVXbgmmhVkyOdiBIS0KuK2dcu1Jfa9/9377n/n3wffh9+D7+L7yffR9/B79D3+Lr8n3798T79n3/PvxffT7+PvZ98n389Lnm5/df61/+q9+q/8dfA6fA1exetJaXNAviavX15TtDzwWryevo5fz14nr+dz" ++
  "F6OX/ov3ghf6Bi/DlwCv9b2MXsKX6CV+kS/Jy5eX9CV7yV+Kl9OX8cvZy+Tl/EpxDl6OmpZy0GCp21K13k612ZNuqZ1pnyfVKjvdFk+mBXaG7jtD7Z1hVtXdG/0bmFlukU+pI2wBE+wBxP2K84ntFxWHNTG2aoOTCj9lOHBneqpQDTozGMROJ3aAO5nQ8aVXxeqjAijL" ++
  "mnl1RDZT1spojVKpKlMs7UV2x7emrxXcFRvqmwJ6DkG6DCkpmoplYI/yuVe5VaEEpcuo5VLLGrWnes7KNkMtYwpszZeyUKn1DEeVBJ5WbJf7sHVycDKlYpw8KzyXe/C0k7dMV1VJ1vypBWMsto50RTNFvnq8wbTKur3ara1qymujYVVarYc0COdEUP1bqlkR0a2lNnLW" ++
  "VUmK3ldHqx3a2Ku9hlWhnRW02rFljj0va9PeVFajdteywsdSkev9wVk3qrLurktFkH2N2VIntxscqGvZJK01LWMdqtdrufyrtSwbs7WOZazTHzvl/ltq6fJxe11rMC2sX6+32wFU09TrX+sGmKIO0tIZGjAO2fax6t4+WWOxbjbY23lrPO9WqaWT1gmjQFoZwyVFO3vU" ++
  "YFq6fINVfGMJsW1E7ohspqyNxa1ROrDK58FELXDrTZkBtJsPwe/N1awyXAEuVAHOeFzLxjItaedi2bisZWJGxQ5Ulh2omIrVB+x2VJbtqNQycUeYDoS2BxDaNza3I7fdj1xj8KhR3GLkJt3txfA26lv85RKvketyX641Qlq5ttW9kff2LXnv71Es9WqM+QfS6tFq2t8o" ++
  "eF0e6VLbI/qMrLQ2Pf5U54ClvWXyjQwOrjFmXSRrnRUUqDtfS4RCTFnmQpQJTsUbOpUjppWLwpfSOsCVyqA3dujgC60eTRWilYkSFXyDa3w4pyPfhWO2RIdVeVzYdkycFDoXE+iYONHl04xXo6IOpjZgfm3L7Ndmob9WKP3agvGvWEmnXtd2lafWQ80aH9VHA4bXmtSC" ++
  "q/L4ZPGInIqedfLpvBrBNOdhcW5xzIJAr6sNt7VqsmofrfISqOLFnc2CboL/roQrfR9qcf9Sz81Z03X22e/089W4iYHGUWgrM5vp43G4VqyT0hKAzsDeore640CE4V1laBN9uG8uVW+i/hHgKriKsjYf3Z5E0fct3U6lK7tnLcNpC6K6pnaQ3qYwZ7U0SOVX8WUt6oAt" ++
  "ESqFOdgs0fi1BnbDFFzb6rwGb41qplLV2ZO2BtC6MVNL3hXbmrYVgf0wrfmQg6ftGZhIlbJj+0Kl7IhsS9mK+l6QyvpuZ/kdkW0pW8vfC9KWi0u49jhde3XSy1RU+Wa9ju5toAciC/iET82pUJW6vPKu7Osqn31Kxun6dG04g1y+UgEt4NpAJgliALlzJDMG6GMNVYAz" ++
  "rEGAFhKlvFVQWBM8i24JGBdiWivZIFdHwITTDkXGtZnlK4caFkoGzIm36tAa34YkHRTCa5Z4DaVWRTtuagvN9tTdGduYN3HVIZr5rGIMXyo7vNbObSXMDYSbQDORNlVtjyAH+cDKvBT+DTapHcev4luOlVXbnYJ2tdFaq4jd/ef6Dm8+7Y6t1eC5XgM0HTssm7yJTwsT" ++
  "3FvDngnbuS19bysHJvDC7mH/hflOW1r4otbCVta1Vjd6lT0Eu2EuXHPAbotp40ujBRT6+lDKJhneyi/8aRH1Ux6GbJrFchwxPPoc8VI1ypmRp+QkrRAF5DQP6Cxjlss0mkK+U5Z5PCYbnrFENZG7frp1pk7UTWVizjjqYsrj9OagRunvQ8XwoVx5dqPPaeCW5vJsmrEw" ++
  "F1Bbg76pl4h7fiqTbBrQ+7rA06wU1RkoXUIdDjP1s0JAaYpS0l/NdQBjenIQylStU6S56arVAFQZ1xVAkTPd/G6gNSbVwWGa8oYM6KBHPdNshPMHsgaISl8fCAatygp1lJHsNDNfSDJjzo2NZhmwczQJrMxHM7/wOFq7iEfBlNRSX55pK/FeIHppIL+iB3eTgQpIX359" ++
  "wtMC6M8jdX9PIUDtnU8HLM1EeY4SjVMHaLVyGuDbJwo2E7iPPU043obQkBNotwk+cAAci2ohbaTj5I7HdyEb8bsBNPadZrq7MdR/hiea72irG5C6o2NHQGbO6cKXH7A0Yn9DotPVBiQa2qi4wCsOxlPqxlaQ5hSnoyg79Gb2FJFlKlYPwZcBinQyHXDojJraCqnKf1Ik" ++
  "ArWQjOHRiWkBIgRoH/MkL2K8HlKgmYNU4M1YVgCNp0MegT4ypVMOeJRSTk9FOpTQD/sp9FiYlySiyL6yocihJcjmMEvQuD/kzhA9DEpEhpdt9QAbcGhNfI/l7kvBgbqplKM7kPiBTO5GMVmbT9jY9My3gl9kCZrDzQphDlup3oIBF+YKKMXqfMOib0NbyRVAV3JdizI5" ++
  "dvMMz9cOs6lpj1jmfKrnnuTGCxloU6EKysz+tfFPoyJDE/+hNnF+EWMbaZvrFxlaJNO3c+jezgQEq6f7CRlNckKKWKAIUfOhiUfcpRm9HkCMjoecjz70EuQq4WXPx5XzY+X8VDk/V84fKuePpXMz5DFajMErvvCLd1b1jOkQZnjvmyXVSXJtLyicHLXGfyUT9njeTYcS" ++
  "ibAXeupZIXMQm1P3OvpwfXz98frT9efrHxz9ubqFR9LvXj9oYdC2gczsxAYtwzI6eF5KEBQpc4GXkMsgfReCom7x3gy6RbxGbxknYo0d8MNQ40BOS4wlAq+3xx5M9afU7GiMF9/IyFAsDgYohhhIRVAtqZOCZgVshmKzLzz9MAh0cJZW4HhJG2Ho8K+i3CDkRXrk86NQ" ++
  "ZFNZ5KiR+T1rSFaLPRiMRkxQmR5ioxJtHuko6ZilJP/U6wEQ3juVYc6Gjv1kGOUqwXVViSyaNuH6TQWBla8AyiAr/a+WdT0KWJVpapDVAVYKqqezTyW3A2gNyOalS5tntC1qO/6rOcFWMucpWgYw3iKOEIAYPc1jddOxup8xGABzDEBeo3BAKR7zAmW6h3cboLuALpKB" ++
  "oI9BVKNVNhxF01LRwZEC2iqEWkwzfkZWCyKhXSC/ROwVMQzsHG+PKSUz51+l5+GqHVryQpOo5DBGGvDyneb+lBXQ5hkQKl6gxDaT3Ua41vSImBJvS4D/K4x4fR4IHMtJL8Sh3gyQWjPUw68CUCvGAPRVXV9sqFiXTRXLmW/j9UCtslL3ofkGQxXGFxkjlvSAv2USiMIL" ++
  "aByDDufhpYlQ0NtSeJ3FPEKkG1gpLvpEipvt1wBvtk5j2cPrM5PyjgzHpcqjMdPLyOjIU+iQ0Em1djqW7dFaWe2KtlRERACU9XRoL27YoX5KKlpoXjdS69p7F3LUPQN8vMjXNTI8YXTjATAKneM10z8ROx0B/c4SqK4vmixHG/hkTojr3RUq4ujD9hgto+HhzMi+c4CS" ++
  "VaszCnVbYuv+SmfdtVxXl62ndGyclgHVOlfAaL1VCR0YL/CJQQNBCzr7AMojk1WQlgRKg8Urc4KHPmj6kB7Ptqd48QF4K/WCr1ArIGogcEaDDwQBmUg6l70kKPrXPSwfxXjEErvqNC+i+85ftUJaTUygXHMaXsd9hZEEaR/IEC8+Y8sxEfYly7+a48WFuT+TfR0JkC54" ++
  "ijYb0ftHEFZZlgVJgKbbpycsQR7n6kBoed2L+VAdYDIgximfkNqvh5UC9OSkiJKph7YAanxQjX2N1Wx9w8ZMD1ORlGo0G3C0FOiJLJNppqfGEIeKnQnUoMar5qo1GC1JtPdC81N1y6+6fA3jEisnO19BAelRP5qC5oEvXeCluFNOd3dBUGE/GUDzXgZkolzgRe4JNeh0" ++
  "nArqW+Sx58/ASZ4Ip/rHXgHQQQrXWOiHFchlodrA3TUQ1DvTEI1gPe818aW31ADUUxBK3ikYO0TZSVbXBG2YZrg+DUlu3NWByhtZbkeV5dqBEYrQzOSkbLnA1IudCl+9PpZD/8HZ+FGWSFQgjN2hX6k+Mq6HaywpbReI6hug/zditJqG8Wq517fXL5rhMOdIYSKafc3x" ++
  "kZdem3JlRhIryCahtUiiJY0Kt8FNrhasbouWmETEagqrEHTbw0pb1tnGpgxUx4Rr5Lkwda+Km9eKE2e9JpDOzUTQw2uIN0ubVXoTqD5/3FKSOVJsosoKdfGRU/1OIH3Wsyuaqs1z3JIy2NA9MC0DZYoHfMs5gPbWYnXFTS61pi3BDDvZaLs0s4hZR7hsrApz0MsGuDoy" ++
  "zc1q30CGgl66K6NKEXSKr9VW4Zr7dbzxdfU6hWUDJXy3JMQ3jGrEfjO4GprVw6wut+tl4fKYsVFurBTOEjeVU+swajSzxfYeMDu3wxm1Q6j2dt6z7MEwzshqroJsj7yoP5BZJXO2rPTDkyorMzo00prrxLWrnsBaerrkhNVOXuG9Ln3qxLz0Q3YC3MdLS/xme2MvzB2y" ++
  "//mclG5MeO0FNE+Y7QXCC8an1N843UQ079zik6MlTAd1S4zUGlV3vLWSVT5jpMdza43LvMZqLTJP9608W9ffnJvfptjL5qXwMgqXt0BfNDp9G8xqT/I9RltqxR+CmlYHd/Y/kltR8w0v6lrM8gZML96GqXUeqf12aS3DQ1BOA7r3xGtN2B45xblvn+W9jhsYoBj/DtOs" ++
  "P3Bd6HfUev4AmN9hlPsDTxf9TqL5d7zN8VTd5rgyWVhvWZW5fYfc/sTcvmNuf0Ju3yG3PzG375Tbd8ztxcqtgVlbtv8O2f4HZvvvmO1/APi/Q7b/gdn+O2X775jtv1pXTvSkWPjcmDmvG6u5KA18X1SWvy8qu5i0llt/66eRiTKTbz0P5MOMvjpG0ChVI6YMDYEen7Rg" ++
  "NjXz9i7Up+WVlP1g+nGDN2b3VmjrJErDOv8RXVE/on7QkhazvFLXr/fCdJRBUbZU1JLZMtwTNzNclxaDWiJpIUSfaugijCdjj6EtEUcNbQArEUHH3cxQ34AhWbMfBK9XAmeEpOK5mkMDdgB6Wv5WYC1GK9Xl6ECKC0uJOQQ7JTsw3P8r+Ze2MWVSJv8rRZZmaawFsAYQ" ++
  "BR8N0Ao7GfFpZ2cLoN7nl/UUy0aft1hyT0bbhrmsRkalFozvAO3p+KWyHLB41AY3xsvRR/geV3cu+2HI4E45OWl5UE0pTlUL6vdrjXW08gECY09BH/ewDk7Zy+3lUiU0f4KHAeiYjZq0KTOpl8pMqj79ekQPZvtkZNDnZAy+sjzTHinTaudIAI4+n9ZftlWGOgk3KlO/" ++
  "x81zO0bBTh0jivWlL20/0XkZHSYx9grrlAxpmPHGBa2vxpbLtZYN3aVMa4vklsEnn87bMBOIHssMJVIVs9eC0ZnO6EfArDM75amVepQye4M7GvTUuznMWwXQmWXLrw7xaPtmF6Wht6/m9K7z+FFpU3mBML8a68RfpdmxorS/Vgaljd00y0aHXjrWp/D02xdoPt9uq7Qo" ++
  "udRI+ozANF1fqiNK+hUk4Y2+268iCTyzXTuPVUXd10DdplZbAfaBJq3E6dsyrVH6vLOlg85se2YOWHnwvwndGmUh1K6dOoh1gGiTm2YGYc0QZsYEZ0tc+fRRdee1/lBSPcZ9CmTISKHqeBGuLbbx4I5tMV110ZrVw1/rsvDX+ss9183HvX7teAvs145Hv67b3j38tfOp" ++
  "xF87Xj9rS9kKsKw91AXtKEK0joWtlNKSfzxa4m7M0YfN8ebD8ebj5sPHzTF84f/T5sOnzTF84f8j/MD/Mf7i5/Pmw+fNMXzh/yP8wP8x/uLnE/zC/zH+4ucjOvBzTC76/rD58MPmGL7w/xF+4P8Yf/HzCX7h/xh/8fMRHfg5Jhd9P4MD/o/xFz8f0YGfY3LR9xO68HNM" ++
  "Lvp+JCd9j5Vb/fy4+fDj5hi+8P8RfuD/GH/x8wl+4f8Yf/HzER34OSYXfT+DA/6P8Rc/H9GBn2Ny0fcTuvBzTC76fiQnfY+VW/38AC74P8Zf/HxEB36OyUXfT+jCzzG56PuRnPQ9Vm718xmd+DkmF30/kpO+x8qtfj6Rm77Hyq1+PiqP+jnWPv370+bDT5tj+ML/R/iB" ++
  "/2P8xc8n+IX/Y/zFz0d04OeYXPT9DA74P8Zf/HxEB36OyUXfT+jCzzG56PuRnPQ9Vm718wO44P8Yf/HzER34OSYXfT+hCz/H5KLvR3LS91i51c9ndOLnmFz0/UhO+h4rt/r5RG76Hiu3+vmoPOrnWPv074/ghP9j/MXPR3Tg55hc9P2ELvwck4u+H8lJ32PlVj+f0Ymf" ++
  "Y3LR9yM56Xus3OrnE7npe6zc6uej8qifY+3Tvz+gGz/H5KLvR3LS91i51c8nctP3WLnVz0flUT/H2qd/P5OHvsfKrX4+Ko/6OdY+/ftJ+dTPsfbp34/aq3+PjV87ak/pOm+otT4W933Pc29db03ueUfuMHDHiHIw50Ztyud2Dwwu00ODS/urjk1tueV1yAbQlfMEpfV2" ++
  "cfvLlPaF3a5HOa3IxguY7QkbkXcV7Rpxt85rfnmuV5JrtdVPStYp1fUCZfnccmuz/tHOc7ftDIvZ/L01n/84yLuUzVHrk9BHtdegbdZopGhGtr3F6VzIaX2V04Hoeon6DXl1g9rvYsbNSb5+KbyMsd4Qt97SLF+fth4Wt56kbjywWcG3ZdJ8qxPLry8u2EW1Yd4s9VAt" ++
  "qlIsw761WW51sKoxp20cOSpB6zPlBmYlZGMFpR5QgTbq211+I9fOSjUy7S6/8aa8RcnukqvXxasT/cpUcahvOk9rsbacCnDvuEhPrcn+v5UiZmFJTxuw7Db/qL8rTvNiugdeTarsdU0T607K9NKWTDrjtEHOQ0lr4cbYNj461ZJMRetpnLVdq58op1tctSQX5ZM/1T2v" ++
  "Fnxqz0+qY3Udc8622Ia0oVUKZT+18aJ3XYjZsM3F7NZgnaaec/ugQrsifR62FF2Pb0rgIJXFMOidNR+zNVHO279mCGxXPRxQylC/pa4zJp8yNKLeAL+xXpUxoOZ5cHBWb6urVOTXF88I6KqylWLB2g+Mt2HwhkK6Mqrja1emzKyGlI3wgRftW7SHfWAHHrxvqigHAPch" ++
  "p9b+3oCeDdiNoLkDfwg/G+4A7dq02/2Ah+jXog4fBD1Iw7eh6YIeoOOb8HQhD9CyLn/aETyEV5/TAHOAzAfbSyFzkFyHa6/xOdiab6POAbS/Kcsrb8T9bTTYj9erVeLBpnsbA9CGB0yMVGVoEKkC34q0gX9tzeRtPHS4zd7a+m/ixpaJuDEXQlva+l1hOlHUaGKtAznv" ++
  "T3dBtSsL9ber29UDF+qx/txz9Qxeqzbxt0GrJlA9Dei8K9OBvn5U9Y2VK1WK2lZdu7ajzZ9kar5rHgIr/SjIS48Sl6W37enRalvRevEsS2R+S6+QqCeira0U1zi9vYPixlhJ7I0RO4EdbhVOKdULhzqzW5XKDVPMK9R1axewFtr6/ofzgl37Sx8uSGcmuBWGNxvInv+e" ++
  "h0McYGPq33ov5O3gh7O3cGlusVUbny17bbVdUZyuWA9HOs2Oce6jkTpaS4kygzagyyqPZv6qbdXFnPbHDXRD7wPRa1QDfHy92uTWbyLR8x/lM+SKAmY3mS4Q2qQ5Zbipr0mjT72WaVveX8IN69Kb6T36rx4aQVdnA7Ik4Kne/66XvCsS8zqeAi6v5iuvlXXFvg5ILVL2" ++
  "Q/Gl4LWiioSerqrTQL2BiIcV8M0CbcxAxPWZu21K7/+JWP/vrkG1/xeFpZadxf+9NG0F7tSxr1hFqTHfVIZHCd6twffvjMt5o3FhT6yUtFzYUzUVormwDHAMz7gPQV34jmy8MkabrmrHK66csx0XHdvxfW0moHyN0AKzi7lUbIJSX+BDWABxduG7E/YjczjWOdZXvlpY" ++
  "DiGObR1z3kgbq9E/ZW9zHky/0MxqU9R+2fCu/Y1P9/VDc7ijvspERvavGstUKtgci7+yy75WnQwLVY+v6G6Xfa3bYlGNOi+5PSPxZw7huMZZ6DBmhg+F6ueCXIMh1oBbu3FYQmhlyTlK7gynGqBuiYRedX6bjRtlJEm/A02PQremu21YltEmCMonNPV569KvRmTcHJ9o" ++
  "oagHYzvIPmnRAtsWI2J8wI2efRDxQMT4CCXWlt7PKUOMo2feIm88rKKHjSNO+mT5iLfzCBwwnyRppQ90YeHAxRnHl8KnWVAMBrjZrx+4dtTRmF6QpHOPpl//YQZNVBiVcFDPSnjq8ee2NFNoT+EFdGllNMUTcpH0JzGLhDdtv7Ta2nzfGs3nXnkoX/IzC3ot9rfqQC12" ++
  "A6xIDt8Uz+OltQscM/sa5Mw1D+YgNbMLn7n2sgpoOFAl2YT7X2tn0aqHz3WA885u/eRax5ZaX5QH1n6pJTHqBq2QahVXrZY65+H1Edu9r662wkDMZBrhRz3/Xp48tx51n9NqYulT3dZ41aPw1ZzHiK5nTGTOW9kPK5WgMzclyUPr5FwZcSetF+UVli4KU2DSIpTqpasi" ++
  "sh5lI2TKJ3GrU0nl63FlFtR/SWvPqwQlmP36kWqza6YMEWnZi8J+qpejqWTz2GBtGVrnSDH0Po8VoKecyt4iLWsnLA/0c7egnYR86yx612NXMR2Z9MKC9BocuTC4qoWGZfrQe1l3PFvN01g9dVwnjEuD1sVm3N3SXIHSaG639pwaea47RDWSWScN3UGoLNiesXl4Eq9n" ++
  "PaV5n4gEKrnWz00DNct7Ai1jvdKViHARiNAzfDIHD1mqcEtCLnyyMRXKsQ5Vbpy7etD3cmSxhblTr4e/6lqCEeN4S0k9PV5mtyz1A5lnS6NCoHWTCm8RW3JUyyFLkGphdMrxmjM+TqjuzZnhoHbhuMKnVCOeKjUC2Ei/pKmT6xURPRGj3ZCvEW6O78u+BeHHJsJGonQi"

/-- Part 4 of the compressed table. -/
def characterNamePart4 : String :=
  "2GiXrsKcp06sF41spdEhZ1sbWcFf24spUxEfC6C0IQJVDq+U9xpRFremXMkA3IGsOHbKgCOH5loZNp80aR3pWB3pjUtvhf6tGVmaaXTMvSVC7TxMMEhspQk6j9052al4SqtzUCGk878pbQVp56LVR6Sf1nv1XK6RSwekU6zes7OqqDTgyyZpVIQZSlvGJCWlOrNUupLT" ++
  "H+yByu1mV/YJdqV3mSWDKs1Cj3cVEjhBruKfpHqjXNk6QSkJA6+yZWCakRo8ZElSS3pVoqQtO+A5lhIpO6wEtO2Q46xFpu3hVmWpQprlVkawrIz181LQkBQ+5fVZu1WLlvweSzirV/kyQlOAOJwaQyb4jF3K8Mh4LdTRjcu2UNuhlQ5cayStXLW9ntx+wOalvuKogr+6" ++
  "a8BuKQ+26M9EJHAgN92bfGhXcZgWPM7rCOpKUWh53bq2ANwhUb8mwLdnAm2HwcxGAQNu5bJxc2m7lKOWRFUxFmxLutoqdnlzF98BJ2hie6gjMH1BNwqtPLKvdDulK7bZrK7xGdceDTX3/yJOWVjSkixGWMZqqrU5+zaCvnXirOu1xNcSu7fAVf7NLNqgqozwDUo9Iyub" ++
  "xsmjDWBv8sZdmkPZNRK8MfuWCr8B/q9krpdh/mIRar3TKYdVnaGRmx1n7aWQjUu6bklKOyra7Q20F9LNEKM6UWkDqO/t6BUF9U4wlaHC7YzaNnS60lW7QPWSjKAyIqMt1wZMVyZvQ9KF7kbtLfVry/8gMZv4O4zWWboDNj0E0IGNm0mDxdE+lUnxYBfxUBNKVT9+aMoi" ++
  "q5M3WaJWys5OfrcXoT+cprXYooS4tSGu2ilgifp5CxHtQUiPMTFIVjKDoDNyks1rhCk1DFcA2BqVSTDTymgbD2qFsT9RiytubvXIzmSHOectCUjXwnv1hCLqjNptRzijvgXUqQ2oeWERJRNj4I2uWPKs7KeVsLMbJStA8eD+IbA9uTmic092Dlwtvz0Y7cFiX8n7Sqtv" ++
  "xteS1qNbSj2QQxuIWR/UmV2aJGab3nT1v+l999JfxVYaHulMDmQ9rkrVNklvpu+GopzwmmvaNXabjPYDmXwazWolb8a5qVyttZGwFu2mrTVII3E93k1t81MjqR2pDQmq27z6jeoSJb3f3Ag3M1rFC9cq/2uFQUXRa1NuanOedcjDHNr4m3N2Q4H8rd8IqUGZUpUYVTBL" ++
  "a2rfV0Yt9IRbHRNpuQZdnvWZJiL3AnxFW08COO7mJVN6TFzbQnZWChAUrYvGMjbO6hRv7Zbzhb6f7N5w17i5u2F6+qd3w8w96Lan5nVBJYh7RsU6T7A/l3bI8lSVOuhHsREnEytou8/NR1e8rK6zdHTh3M02Q+TcPstcJjQIlgGXOvGltg2KvKss1psdb2f9vIr3JYhA" ++
  "9KkdZLMKrhMpwzMoOWiJ3Xr7MebNO+TPao5fq56GUHFmq6tjL2Zem8C2nSrqixg3Icw630N7Tpdq0lt20b36iaOBmXHdmbWYnvlQn7KUXVajavaaaljqxfa2+tRn6429rdqTUKg3qX2YZsTX6mqEirRuUVgB9mWRvXDWEXUr+Be1B6Ft+xGgOeJnh1XHA+1Q6/aGFayK" ++
  "tuEsFPfCWSi6COnz4FZYxw0xkVTS7bk099C21eKAPhlQexe5PJChNuD1kn7jlZnOZ2TurNdN2l6ZcfZwa/u+s/q+78zFZtbA5qu+amcb21OM6hiudYLKl8smbY+gNcP1u2VkQlgaM/DGexHwMwo2BtyUz14FdCJsFJVcudDWv9wnqGqBzuMu7nZ3LbDlnao7N4F+pd6B" ++
  "t/DlYSiSjJcnJhoRtZffXPhGsHXCqLGxZkzVu5yaNdLY1hq+usYaXIsGX6ubnW+5tdtxg/LFnHjfNK553rRf89x0XtL8vb2Im+5Lmv/ams+/d+RTv5Kz9yYZrWU111wbV4b0EYLW08hvu7lksqjPNjovE9mj0pPR+azM6xZBrIxqUV/3YV8v/2v7Keku9P8nKFLLattO" ++
  "5K5j2x3Qzs1ox56bPslpXxgzaoEav9RghGbITLgaryx7WuVjUpU5Yy0YrUegqoD2twtdsdkVq62W2WJRnpo9FnKplSbn2S5nPf3urjJz31LT6qSBOY7fUXUHkA6G78mtlI0EeCBHB/grnR+o9VP3pmalZ+gG7P+lNM4td4c3XIWnPda9B98C0M16Da2mq3yt/LfGWvdo" ++
  "WwHUPef2tJbi1Z62O9s9VNOGE/cTzwHaQ0MHrpuUDlh1CqgOpqxH25dP3VNDh+EPMEv9bt5eoEOs07zCtw/s3XH/xx8OsoMG3sMVptRDzGFyOljWQZrZW7/dZjD+mbQHKbw/+SHC70/tCLI+PTdTKiUm4BBp6PTrQRGzn0RVGbRMsV8aHaQYYXRIZB4inIPSfvnaXVTC" ++
  "RGrAsk4auFB7qucCdtfAhavQs0+y+s7U2p0xt0FYaHUD1SfZbTD7xZkaZQpjD5KS/KanirVQGpVqYTjHdINAA8b1MWpPtTQ6jfmY1lYw6EoFWW+yaLIp3JXlaAvhJh0IHCTbzz9Oa4++9RjMnEBbT2UsvKzV3G7VNqBMihDVZjqcaSzvKh3LQJtWaoftMOPbDkxHhg10" ++
  "1WytwNZbR3ugLvZid3EIo4tDSLxJ0tECKC6MlMj+d8skxhvkdDOD/7QyeNMwUWZhlmTeJuIbyf5aYdWS+F8srkq4x0JzbR70Up/azGyLzTXgpwawBRBXXK3ibOBGpJuwZnqpnrQWDXTp96W54EXqKmanbH0C/uRTpoOVMcwi0WtY4ChNOswqSxElO1nSrTJD1HLr6m8V" ++
  "N9NNM3O+G9ej5dnU3nG2ry1k91gb++5Cduf4rHd0ddsSjmflsdizKxBLPj48ZCUzdmfLFzi139zJqy2VNVbBpJdbq2DaZxbAWt+N1gXMOm6PmOj2p+XL6Nq0sx5vHlxFKRzh0tHUXXcsn/muLz+WdkvUPWP7QSHTMbKkfLthP1TLo0RO6q543TLmnDC+BIy7pRK0dXwj" ++
  "Fs0w4/VA3CrBV8cS9VIKPS1b1vcOh5lbzPtO0FFGFmfq8dkklRlPgb8YvfLGOJsGk6GAnySQIb1Vm2WFeaKLXjPMYAADcPfKjjRPROVpwTUlCJql+CRikQhfTtFiejY9x+eHR/igXDZliQQ2jb/6Ec/Be1qEHj0phzcBIUXceKKeViIaD9Srx4Ry08VqiW6a75AfWEes" ++
  "LsWZzpl1m7npTHHQyGBbImtIe3MaPOqp2lrGtPQ4zbgPTZQWWSbwTAyq9uZMrVZITsUQe0vIv8XyFH/wLUry94UOyXQ//4Z9iHu4mdg4+lHebFO7ZwXekinfnMs47qZZAebl0fKpWfWGqnmO1rzCXV0qxhcfw8wD9hW4YZmwIiuf7RyGgFwIncLreSwROZlhRkO3PXZe" ++
  "PPeL0eQZBi3+rOGefdlP5fME5n3F83kA/SDnz/45oP18zqPwhD2L84C/QAUELkeh+9k/4empeB6xkXwOTwpfnPDnaJJBofw5hrm7eJZx8ZzIkTwRz6nIM/GchfJUPuenKbDvczEqngcQXjwHPC2eJTgS/pwFOXtGWKiXgOxBNQW00uJVvLAcvNBXOD1U9zwpntUC3KTI" ++
  "/qVaQn6eyGehxUYZ/4y3xPDXxBj/AEiDdQP0GJWdCO8Z53pFjm8H99gzPfGGj0iZunms8Bm9HY0I3uodhZK4OyTuDom708TdEXF3RNydJu6OiLtTxN0hQZ8s4j7tFHF3SNydJu5OI7Aj4u6AuDtF3B0Rd0fE3Sni7oC4OyLuDom7A+LuEr7DCu4QVuEOfrZD4r6IJ6jl" ++
  "riLublLsSuJ9r4i7m8hdg7g7Tcxdjbg7JO5OE3enibuziburE3fnEte8x+dysHuljB5ostugGd2eXp/mp1XlTWK/zblJqxq7eTMbbG0OBJXXlim4Xpw+nOHTk/BAXzfHRmwt9Whv6tGB1Od7U58fSM3CJGCbqFoV3hjzA68Y42Z2qg8fqOEEDTnWcrNtPDoprYi1zgUt" ++
  "hjToiENUUKMeha1zMuWNF7oCsdYL5PTcxlojbDXoWhp9ftxLlQ0DWlzXOeotOl20Ts4vqltsTvkneH1SDAStn1CISXnazrv6CkI2Ztr0yua8HjL1ZNImt8MBu3SZEUNqUKfCr0FRSA1qyKKoBqaCanA+C+vZqaAaHBfchcKAes1l4cJgQJ1dWV4rjkIajJDXiqOQGlQe" ++
  "cPhz4XRYDVKgzHEBVVC9K7KkBkYhdenCirAGpoJqcJFwgcBfg4hrEHEDYpTVQDCgBiNdCFmPT2pZJI0c0loWaSOPTNTZiULqLcJqHIABNZiilk/RyGVQw3fQpEpQp0rQgEnqlEtaKFfnWNnkWJD9uGJ1lEBv5INaV3Hj6rmH+AAg9XSYpdQKcuNqKb10kuQSX3SOAKDR" ++
  "95rRnTg3OboW15myzptOzF586ykbsd10ajaIG1fnShbVmVsFNfCTStUOeAM3K6Ybr2bCemR3Wp4FnUkxrj4KjIJIIKFGjTLdqM6Ww3WJrrajuG5cm0nrkXvSsu6UTRlqVqTrqeyIPWXtaY79rQEDyR408z0phzAlE9111NHd6f2T7sQYt4/7GtK3EduSOi76OP3tSO3E" ++
  "dqeGSnWmxbg9KSd7Uk72pRyzojMlxF2pKfyIiXkkYKyaJ/TNYLCB3jyHH/TCkEChWL/WwcoVS22ioRG/N4c2/miF8GTUV4+HxUIdgFnBvAyncmjJJuHpc8hjkV25hfVlwACoTS44Ue+OvcHPlxbF6AGrLJfJvTZq4NyyvMcFtZZgdSBHHTpOLwcp09ZJYk4q+ZXJ9DKS" ++
  "Ka6V6eUVnWA65DIdEn85Aize9uEf6LD1Zbzl8fZUxNtz+M0hCJwj+AlZto3gN2bpFoAS+DkP4JMyvs0YgqbbAsIxbISfYQChX8ABbR1vPfg8QsCJCLeeCB8R4gz9CBUw/sgfBd+OObjTR8nfHfvHP24nMf76W8bR8fH9NAeVP2Zk/JEwn7D7/jq4H66DYNnnKa7GMI/5" ++
  "PJpA1MkS/u/9dbD2H4IVn6zY4H60zHHhEqbJbATRoyC4b0kZVFABQAEQux9ZgSMM/VL5vywnYsXOgyUL2HDIEK9zC/wcwcP76D6uwobxUzyE4GRVrFi6Tu+HVgJwswlVb4hJs3UGlczh34Of/P70fnw/uT9f5myM71hHPMdCAPD8fMVXEkj1w+C6Pj8KGbBdKM6rZ2qv" ++
  "9UqYTMkLyX4cXOM1ZphTx7m66JBOQXEXMsGuNgkhD7IIwO4j+E/hP5NsHcBvH/5z+PfgP4awCfwOQ5ljTwHnOfz7EAz/9ycIimk8/ACTsjUCD8dsIzacbwEP9v4+y9hD8SAeGHvgfPOAlWI/3XteI7T//v78vBmKsDCHLiBPxjDbDQZ77++/TBrA3k/3o2ao//7+rCX0" ++
  "p/thM5S/n1biw5ukMCsWXikH+PMpfx4G/Nnnz7iCx59H7JmHL9FL/Cxx7Y2nL9lzzp8DXIHjz16Ay3HsG1RArZPx7Ahi2bPgavHvOZKxVE9FF6PnCctfClxgw/b2ceVM5Dm0U235TcXqAMeYIs6xc5BzJWfw9M6cM21GadOYdoRrArI1Su9LNTN10+6B+MoEqoR0SSaR" ++
  "IbNQutTJ2uKM0Um1vWD2K+yquDEuPq1xGhPzYDudOVNBMhJZ1sylK5b7AnqfIJsruPeeTcs3wGVGN4C0mTMTVK5Gt8QFkwS6PAPpTzdxqNISF8Czv1UbpFAOq56HUV4N2/YM9d+UhQttrhJKCDgaPcGjN4bcqYSxYwiIhxHWK/aCqYIr1+h4SvZk1SlSvVaFBejL9EA9" ++
  "XBLCqiRByrKaKbCuSCu78lrdonpcoNd8QxM364113q5Y3IKzNmpUWb/YWzW6eL0r14C9bIFVHQYG4DGbZL2i3l2aEbbJv6ap3paI0n4EnShCbQBpkqA5r0JdpDFhBFCC2xDGVKSxN+FEDsSpSk/7eCUbOsqJdSIL22aalk9VT8cyhf5SDTdqBRgNBumFPrI/NdX9BMIv" ++
  "VYCOJQtiZPbYh/GV2xtqQ0Da1xYbyW3SKMivZkvVmNbBTaKvY3nEIzrnSLY7jGea5VzLVZDepYJW1SsTZ8oIira26FzsmpIaWoRFZK4k6f5SUkvVqbSrMz4yMUc/116Q/1peLdQb/Fipr/qiUwHKKL2Dq6hedkfsKCN2OhmxtUqrPOVDpSb2pjLXVN5uQ77TCP5NSWBt" ++
  "ya+8jIDUpDfj+amyEQVVKcUPqMiENnFMhoeJTlmuA6d4WgkNXju661dlB4zl+cRev6aJPxrlUa/Cah90dhSPTF/FNfo+zyuE+JkXGjtVpNy4rNlpztk+3LgPoDMD54LgnnxcuHKrn/K1uvK1ysHu3PYBgDr4XRPcldbvjvlPoJycjGAQ8tVbwTzhLL/zQjEY3EG3UBvl" ++
  "fA1C4QF7wx1eg5DxXV+e3eWo8N2NYjHgCHOPu/bYgDERGlKzcEYzCRMJbUCQK/DcY24r2t/PYjbid3iujPngkUVepgg4Wi/UvhmLoTOzBLD+uX8HCiKkyor4Djft73x8/hqcaOHzzgMsQuCIuzHLlcij3AYwabpL2BgDlhgAU8wkVKoPETDHuz95WsSjO0+OQc0Z3p2A" ++
  "2g+1DenirgdKa3DHJ1AuTf4Mae76DKa3mF8IKY+sbCkk5rkpcoXVXlK1I54FdzBF5QlUKrrjY34HM8C7flpAdzAoR1CtmUxh/nQHfQk6hY5YU2PkYoi1Rax4dkfngzV5a1gArF1X6HN39HGhEs694Bn3r+8GUuZurActYWcyZlAz/FRFinwys5MMsT50QqsVK4x5QuOy" ++
  "0GyF4jOqMwh6YLCw4C44TDdjOmtI75w/we/gaQwz4adBOLmDQIfEblJkaTx34IYCBTJs25jfDUFHqtUXzfA/9UXqP+EdDqfmkFX+OAEyAY+4aVLkGKfkU16jMoU4MLlErvKaQQ6Un+J+pgumw0D+g0pfy1SFec2wd8eD9++nMGsfnomy3wMRFjhOobnIBV1MXlLnX+D+" ++
  "3wJtRILEX8AUfxHyYbbgqNwtUbos1I1QebbwUHtYCA/fzQbBsDBX9xckIRYJXsJcjKH/LjJ8sWLhXvBfBIJsfPIYL/gXKeTC40UlThYoThYklxZJKmAE4Qs2BE5ZRHh8flGmWwKfBosMxEPI0sVQrnoZtFM4WSDhoYQFTHIWY4lV8QJQRRaplIOFANVU2SdfoJSCyqRJ" ++
  "xgHTFHLHIujxeMAZ6wgKy2gBFMt4OFgAUUHHXfjpZKHuxChBttCKs8KYOgEac/P5gixzgyjLEB6o3UdznCj1Fv1UZNBAC9A0kgWJviUL+zzFzGS6wEQLpUUviIy09Qk0wuuvC3YGCWloWcTYhkW8ZJMFysYFirUFniJaoMayIFG5GHOWQJwvcU92gWYdMemgSIHIUB/A" ++
  "gUULkp8LlJsYOl4MqO8t9HAFjeZKTeAcbP8B8BbkOAa4ITSWHGD3XqAkXUSgg8cLel09G3OeA1sBbxRAauBQaAxH0i4y4Y3wNJchJrBEvqBzXYtsJJA9Mmj5CbYTUGtB54uwjiAISD5DzbHWQ5QoC3xgHSKJiCSuoTUBWZTQgFu6ACm9IHG8GCgRswDxtUDwBC2mYgEk" ++
  "mxcok5cwm0eDdQviASgYGAOIjYJ6AeUPC+R/PBIGNWI50R1PRC5QUU0XJMoXJL2B81D7XPRDKf0FydOqC2jJvkDJDiXxBQrthZLTi1O89D+BWQ20VgI83Wc+5kePKixAV18W8WKgGMyfLFB8A+vjmgPiST0BS1ug1F6MqetDjSC4QKLC+BmyIV+gCCfuXaCgpo7go3w4" ++
  "5UvF7EyEtHAATEpURrkNvRxTDJiH5vwVLV3pDcEcuIVyQ0GOCPiLAfZSoBaK6sWAtEdobxLTCxTTkAlUDddNgVtQ9mQMusBAeILu5QGAx4rQh8IXJNAXKMMXhBvKcGB87LyBKiJKFkqELyI8ppArI7gLHvVTSQduFijNF6jiQsP4aRFBBXPoW4AMipIFyeiFEsELJVqh" ++
  "BkWOAnbwHq0ylrMFPMuBfRU1Ti9guDBrLqTnUim3f2q7LFIdS/vTROrZUPlSQwVnxagkak5SpGQT+U/jUGd5KdX/ILj/gVn/D3Vnvnr24X9Ul+T/VEd4hf/u4/v370HVgXa8I53+rpr2+MBKUqnPJyxhKAzxnGeBQo4O3QBeLC1PytnUwNdrKl0c1RcyIEmeuCAzH+c8" ++
  "lS0vobQ9gOLMh9ugW6PUDELdlHDBa4H2Uzpt4K1R1nsoIdnmJIsrbW+htESD1MD5C5F2yHNmzVH2Pq7SEWlVoBOXzmgr8d6y94JYmbhzHydxLYpujavnuWrWVmD0h2mEOyWe7osL6aB8d7xF8B7KrCkMtMPzQBY94Ea6vtGYs9wL3AASZ/coCVYcq7GK6X0Di89hnsvx" ++
  "YnXMFW9rQ6lVgI9rHrkbRpqVE0ToFKG2EEbrLGXcZWmzxgpE2ikDRNXiBKh7TE/uCGajbvRLGAHpZjDICQomIijZgGN7B5gNQX4lPNBfnta32dimSg7zf7U6TbeXBpzbiz9aXDRaAEb++zHQZnIfiDS37vd1C5ZpxLJCtzDOImEE4GlsxdtJ6ckg97D6HSk3A4ESD0Ug" ++
  "SMNPH6ZQPKidQEznZBpbsqVyiaXQrmJZaBdfcu2SS7kcseWQLUdiORTLUbEcFssRXw75ciSXQ7nM2PIc8hLLc8inWJ5DHnx5Dunl8lwuc7b02TIXS9+UkhdL+PPhy5c+zH/k0pfLmK3EqsDtnmXAln22TNgyEMu+ALVoGRTLfrFMimXAl31QlHAkX/blMpHLqEqnz5Gy" ++
  "5cTUbFIsJ6ZGE7mEv7QOPmbLMYZhSLw8NdAj9ojU+/lnax9kxHKGTHlUErTBZd9wZe+oETx9Q9L7jqRlCpdVrjVkLdQXilEnMhUtpToLeVf/B0P8NYZYnuqI62rB96oiboLH/+Oh03xXf63ZRjKX7z5+eP952peJjGAaUm66LZNltBws/WUOaIXL4XK0DJYnyy/Ls+V5" ++
  "sPSCJcx/0+X50ltm0JByyVfBkoklF0tWLGWxZPGSw/wqHsLPcAUzYWhaUSxPlxAyjJciWNaN+i3jGHD5+MFIc3MITky4HM2zDEK1W/3AvF1m81jwIl4fefDjPQTwDea5GPEiVym0O4WIcH2kEj5E4IseEvgmD5jJQ44J8+Ahwd8k0PkQ2JzAVGbKSV9VOH4WGEM+xGQ4" ++
  "J0wUvHJ6mJsX4NENXowAPVXYXBc2V4WxBZ8D3/A5l4s5YLmcy/kY/RLC5byYjyFsIeaTYs6L+UTMxSUKXp5eml6FJRI1FE2OVNVVBUH9JBSJDkcW/R40VFWpjQJ9ABAYZS1KHFkEM/mNWAJwRWyRyhDZKl4HPekg1VaGDCYLSry16GylXKtWVunXFL1WxDWIUDrVABOe" ++
  "kWNL1Xmso2rITilU9ayqLuTRhK35SiyKIwher8Sc4QWqNYjnDz+7cxaYr5UvPIp4ZDT0R2P3hTxG5XjERQ107Mh8EgXRVpGKlOqK16Pu6eTWC9cKVKSZ0kse9ZqzSgfSwK8yw9sB6EbLLFz19UdcJNHBEdPjeqO3Fyg7TwRKVtDf4ngpJX5FCj0YfuC/wN8Ieu8Qunkc" ++
  "r8C/ipYyWkF/Bn98jSdLqlOp23w72gbX5pB2sAyD5fnEBRqW0ePlaLyUfMkCWmrX1gLz2/Hw9mx424f/bHwbnJ/PhnfJ3TmEZvgJzvPZeXKXjIcQNjs/v41vg9vsNrnNklsfYu8Q7m58fpeDK/Hvzm/zGEIgCNKeYarzc4gY3n6Bth28L8cvd5waFdtMPBbbXG7jYhuw" ++
  "R/A88ke5jYptWvqm1RbCOa2VkwhT3Lsh7t0o7t1QF9xQh9kQJ2+o1xHLboipt0pgbLTA2OiestGcuyFG3ai8e0zlDr8qf3BQCfBLZcAvlQK/WA78UEnwS2X1mC4NAnR5mJUqEdOqMsFFpZbJivlIppzZk3V5wmX8Ry8o3n08Pn4/L3sKzg12wP1PyPg7ZNMnmBvsYG7w" ++
  "hHODHc0Ndjg32IEOu8P1uB2up+1oae1JSn8XwSQv3BEn77IifsqlB/2IYS4S8Mknu5hF4Ek4LnTskMtictG7CizXDzTtQhho0h0o+SnHe3A7UI/DXZYX/uQJrVedwsxsR9MLmAWBE6AAW4/v8B0fyBGwx02xU8gYH57Y4coWuJgXlDp9VWuzgXYPgsHn6RCQBw0dV11l" ++
  "eI8D75WeyUMw3rS0r+wuSZFvhJJiXw9dDGRL6FIMWkCB5i2g2AotwNQujWCaKcBMPgtEoi6omqqb6hjc+RYa/REbfYuN/giNDj3p7BGL21LmW2x0VatNe4IrpyMtiNUXitEXxOYLYvIFsfiChmNi7wVx6VKx9kIz9kKz9UIz9UJJfNORFrojLUxHWuiOtNAdaaE70kJ1" ++
  "pIXuSAvdkZamIy3KjrQoO9Ki7EgL3ZGuGh0IXNFIPp0UvBCm4qqMYqqB64tGTbazd7/ukYxrIOM90H2NdL8nut8j3e+RHbGz3WNnu6fOtobOdk+d7Z46232Goy50tnvsbPe6s91jZ7vXne2+7Gz3bme7p84G0wwv5fk9iFJAh9NPVgja/7jnZx4ewIvze+hv8GU5Ll9j" ++
  "WtBXo3vsY5BpMnlI8SgnzGuHwb26/X0P0+l1ean/HrexPaxTykMxxAyoU69Np76vOvW96dT3plMDNSCPsjeqTtbCqKqjPSCFN0DhLVJ4gxTeAoVBuJ5tMcGGEmyIs7EPdszsLQsiJyyGjjX5PuD9lBwwRHvBdwbohuCefD8pYv4v4eQ7K4ZFln/PeJKTqd/v0ssl/sag" ++
  "PVOAzz1ymPvlwfASJM/V6VS9iI232VlfhMLcLTfsU4585exkNWL34r645/dylVXOvHLGlTOonFHlnDBwyFVahYzRCQ6DHsxJeshLvZSLMbtkCWMgFtMiKNhVnHB2xdLikibDxXUuLgsZX/KsGBWFL6/4iLFLGWfFlYyKyxGeFL4G5svlDehy4hLErYyv44hdiSG7jiFk" ++
  "NCkoQqSFD0lHIpW3wyJlUXEbcZ7LtLgdY/pLFTjLobRRkRbnHCBvoJ/wK86xuLSI2TUoUJcZEwhwDSwrouJK4KJUcYUcfCsvoQwABnUAE1xiZtBN5BWqdJcBE3lxCbXFQUjegLvPgB4AlwhIhbhcY8438rIP6F4CPVLm+/JaCEjdL7IML79CcMpiIESRMyRUAowNNQ3E" ++
  "JV6dxQI4kOean4vLPlSQXdJZIkgP2SMSgFICiiS6IOQmvoyoPvIGSg8Cdp0Cpa/jbCLjKwqPr1Nxi4hCtYbsFqp0TWS7nDDmY6qrgsWXKa56Qw4puyoSIa6LfoEJIiSTHPL4koh8uFfgK6+0yP0PoPw/oL/9G/a3f2B/+zfob/+A/vZv2N/+Qf3tH9jf/pGjN6RQGIXC" ++
  "U/5v2Jk5eEk5Bse/QZdEPw6E6KWhj5tc0IEZkUONY/95BMX/Nyj+v2Px/w3zKTtXwqCVLxm2XnopTy8T79KPrvU46d94RZ/7l6K4LNk84CCAxBJIWsDULmcCXcuIC2gi3E6Vao4OnNFjUZIBx1xGBYwUwK3sqn8Z9S+H/UvQWS5H+EkGl/EAAQY3w6vh5Wh4GZxfjuA/" ++
  "gv8h/OfoLnrhVXjpQ5rwchBdxhEGRVfRpRddjsATGXwhoHRWrpEVGPVUlTzjML+jKoDOx2WLMhHQaAT/EfwP4R/Y+EbDrCoYqGmGaGVX2WVyehmfouf06vRyBK7TXgTsdpmML+Mxho+vxpcjcI1V+KgngwgLhi+LLvtfLj3vyr9ShYyGV9ATgWwT6HNXCciSy9HoKjIn" ++
  "oK7yyzC6iq/k8OoMqKsU/isRXkmgbnAVXSXRVXqZpYDJuH95qvKEYrTjMBP7jBShvwP//AP55+/IP/8A9v07MOA/kPn+Toz3d+S6v+foJfb9u2Lff2j2/bth338o9v27Zt9/GPb9u2Hfvxv2/bti3/9A9v1PKP6/YfH/ifn8Nyj+PyGD/4aJ/5MS/if1Hhr4KIHh8CEL"

/-- Part 5 of the compressed table. -/
def characterNamePart5 : String :=
  "333yvfdTMoQMUlFZvAp4D58opqe61ExzhQ9RJOrtLtQbZr4YDHCjBAYallOKPh/CNBEk5GyCpxEGBVIoDCezMQhDDAbtYRAKL58hNEujySyQoXrUFOQGbonO9PIdixA+xzME6ICBwuMz0ozQOH44G9CmJSqoM7JQiwvtGaejw7NI+qBVTGY4VysykLbRDNGQY8wJTy2g" ++
  "vosYwFCKT//O6DEm0PARPxh2E6XczPpC7UooS7hQDuGQ4NFxOpyLWvJMWSSbQb2lhw9La3R0BehUht4XywymMDeROF1AxURRoj/BavdIP1uRoTIsAHU2yHgQFpSxXyjRgUViRmXFx0A2qAB4s2zm46ltWluWA6okmXShYgaAEzQG7cjTYe15H2bhBR36nPmgVZ0qnBbq" ++
  "ceqZeaV61oefkSGDJyPVYD0cUmdD2sl2mjAp8DrLUJt7wvJS3TKIBd7HgCqcypCOrlOY2bBe4Uu2ansooGcKViPOyYYStXrPnEABbE95KBN8SoIyAHUqnajFGXwHcMb6kLyk75hhXpAbjE05GamN/dWJBCbNeiEbAWkFXl4iFEmLUnSGNkVlEUbSQLOl23RsQBq9ekac" ++
  "GIZD3+FWyDv2/v376URUF0NEPjubzZIZz+dn83lyx5T/rpDkldrLz2Z34+IOOJDA5jxfnC0WyYwp/wzA0Su1l6tADZyeLWaTyn2XlLnsy6MrdR+QoMIXPF+eLZfJnCn/HDJAr9RergI1cHq2nE+U+y6usnAyMClb0qD7Loja09UKdpKXiaOuWmtSWrRrq/vdQKcvU8ou" ++
  "Mt2ddjWTVUY3gf3u5ulu4Lv87dWrpfT9N1G10Zx3sZ2w0YhN+CDexzkqYZXuLq7V6E2MfheE+2uznzUJz7C7lx0iptOQw7fn0+xzd6M39dK2lMOhIkGdAJroZQM1u8tdNBR2Wx5kgeCsu0nrxamuTwU04GpQAdQdXAcIj+eYXaJYcedvI9/eBvT+S8Tt+XkXjRxmbGXF" ++
  "+LybmzE5pe5Im/3PU2CW7RfUDkM4hZ8HXTx0QMZ7wWGGbU2YpgxJIW1mOlBWnNZa4gB89s9WKv2nGOekzn6NbtCV8ss/nfLkpM6s+wZXM563JqqStNFkNnlbQXdnzbpYA6GN++SfrfU79unn9/+LOfT9Rea3obgF+XsbT0Ry602SW1BXb4dDCYpYchuJWxR7t+Ekve33" ++
  "i/w2ksntRN4m4AzOCnkL6uLtkN2eF5g2v/VBUb/tw/9wCJHxBKDz4ha+JyeQ4hxKSwAqiOQtVOD2FACzYHJ7CiWds9sTSIEZnZxMbocACu3Db8fy1i8ACkBD8HoTUBeTO0A1OINskUuhcMwGfF7Ab0ECcahMH2BHHCrrv5+GIivKnUB2l7BZwO58dpeTY8juRuQ4YXee" ++
  "ijqHuIzNwRmxu5jdhewuY9jNZ+AFeIg4gy/8DBgIZuwrdxPICX7YjN/xWXEn7uRdMeOz4E7yO3Uua8J6uVjhwQa5Qo83YZu+3MRsc8KLX63bdOr21Mq6YMYsLZrzRTwLOJ+NOV/GMDuEOQp45/Ab9eEzwpBoiE76DOD/FP5h1jzHZH6Ap4jBEcJ/igHwH+Mn0xDn+teD" ++
  "/xOMxM8Es0bPcIg5YxnoA1CMEXPASQBiY/wkAlAScwEICcBHIDpihv8DMTsVs1zMAwGIiAX8hGKWgkcADgJkMMac09cTsxMIhf8J5CKwZMgEMgOnmEMYg0KhOaBkhiXjB9q2H7A5g5IZlMyAQFA2m+H/gM1O2SzHdoWy2QJ+QjZLwcOgbDajFp+d0xcY4QRC4X8C+WDO" ++
  "UDpkAxlDMJtDqJTYDlLCrFpiO4CrD945/OLRcigdXUN00mcA/6fwnwMMJvPhg3crZiH8pxgA/zF+Mg1xrn89+D/BSPxMMGv0QBeFnLEM9AEoxhTYDgVSAz9JASgV8wIQKgCfAtEpZvg/KGanxSwv5kEBiBQL+AmLWQqeAnAoZhnFnNPXK2YnEAr/E8ilwJIhE8gMnMUc" ++
  "wiS1g0RqYMn4SYgYcyIFUoIIgXQASg2QDkAGqBsSAWgAJAAKAAGw/lB9jDmnr4c1x4pDvaHaVGuoNNQZqgw1nnEqm2OPwLLxk1CHmFN3wN6geIB6A5aOvQE6A3A4dgXoCdARoB9AN8BeAJ0AY87p6yH/I/sD9wPzE++vYmB+KCVC5gfenw8hfTzEh054+gv13F/KnvuL" ++
  "c8vwl7IPQzVDXJNYj9gaWvtCLahxyAeEFn5xkeU2FrgeDY4BYyBo2S3M6od3UiJUgUDo8uWRBMkZD3/xBejCtKR8oy2q3uKi2A0uit2KU36TibNbXBS7oUWxG1wUq6MUoQ2Gd+yHT++npZmCui04HoUTdu1ag1NhddtGaErTBVRBdTtm5fHec+6COzF163Ayr2FBIXUc" ++
  "0B5CDQcKqlt9sywmuOBOTC1VP5UM7+3zYQ0VO6JuPY4XOZ5nnfDUTWNH1NLgdoh+tRh3qhtJW+Kb1FI3wCYsb1CtiulqmUnR0TAQ0VUS6yinQRH9nmtllsJN2Iyut0KIVjL9Zko7ogvLA4Xvgau3UVxrk7iTmnnWxecY07DPiJcbaglMYBssD1tgIbAVNmqDjdp6h7oW" ++
  "IJudw0TUW0V0pLEj6r1VnaftLK4l3iCCTzKbwK9NWyun5xHP13gUBe/6gERW9qDXuNSKVg3c0DyQRYbXapxgfHTrFJ/AQNvUaL56tMeqSzHCy1B4J13wZ/E8Ec/Fc0AnGyAnspz8TMQmLwmKtb6cn6BtHzn6ajJUwdc6uEGycY01MKAhiBtA502o86AORSH1zgpKdq1/" ++
  "YkijxPNGiU0RnnPH4i9eNHUTtQHU86gjnTdxzrMGUNYGlTWgmt0xb9Q/b6l/g5QtlMwaQFkLlGb59o7Q6EDGMGINvAxumsU1XFby5lPJlnu4mw8qk0F82mcRPvaprYWBvjwjRVHPL3LGZ6CugcIuUOEGFT0VYqEmIGoaQUCkhLP5CePRLAIFlBTMLBAwjwBdrDibw/9s" ++
  "NMGZTg6KJ+OL+Ql8QTH8AmConH4BvT+GuRioagCa4AenLnOY+YAqDBMm+E/0jCglhZemEoAk5M5Qw0NdcjRmPF4M2QJmBKCBJljGoJjLCGYYoPrjfAVmNCGUOkL1luOeFKqDMZSe00QlkvM+VCcHPGEKAr+QbQ71yVhE0xAWYWHytCjwkmJ0UZGZbtKM5BdQxuJNXoxw" ++
  "j1NkFzESJRQXpV55QdZOrkDXvChtn1w4uuY79uP7983WDgRd06MJ6UTEPdxf+o2hHRZ0CDQsyHSIckHQl4L88AOeVHnSYsnPQFs5wjNLxioT5dpn6bI1EPpwI0zdy3LDVL4tMVs7W3pbA185bS+1JdoqvyXWKq8ltoFTE0Zh14VWBz4diOzFoCUSrxjYFose6Pr+g/to" ++
  "y1Ld0HKuONKNyKU2q4NH//D69CPd51fOutmUx9KaTD2GEO+OzXLcB6WrqkQQxP0lpHfrYt5ukpsP0QqjMVGIpnpdG+Mt8ftzEPHeDCC6LsVhKlaza44h9RHh3IUBfx0CLVyFoazBmdC6DC9YnjbBq+AueG2iXZJYaE1qQ7TaVR+8ZA1j87XMwF+HqGHKGiiyogZRNCBO" ++
  "axCnTYi2p4jqqVph6jlNaqkmF12aulfe4bloV9gtgPYHAvTbA22vA7Q/SzBqf7yg9XmB/Q8cOMWol6TekOke8ObsF4bMXu0phjK0/XUH6v1txbfE123NWg9+aSzVPfVae+6B68oRhtT2LHCsrVsfr4E2uN15s6J8TLrjrYdDwO15D0JZwAQkaM2rjOzA60sh0pSHLc9o" ++
  "tELUcvnyV2r35a/V7ssbeP/Lm3gfreHneA6m1m/L4Do8KLDtKayI+psOb8D29E3YntY4+LTBqacCNHKZ40m82nDjxDTeWoBxvlsONaMPpT/U3m9JUK8ZhNZqhCH1obwmgHlD3oKe7K7cNEYyT9YUAAhoqMhFprURd75VROsQ/mGes47hH7iifQDFCJciAA1hdWTjjJYq" ++
  "ajWvgjvgB+3wgy74oXkZpgyoY1eLrTOAig9bU4VdpabtWKZd8Fk7fNYFn7fD543GRAUT7wAU0SDkZz3m4e2KJU2XlspUk/U2WMfDMPh8e0MZK0Pb6RW0Dm14dlESIriQYcy25CUjibgyyN3UJ+K9TwbFB54M8szycC1dFf6cMCAApKD3frR5STusMfzvG4r6+4eiQbdQ" ++
  "GuwTSKcyZEkBtKuL2Sq8I4XsSCE7UxQdKYpGiqFC2VhWbKtVO0i7wrYvn9Fb8okP5xO/JZ/0cD7pW/LJDueTvSWfwHrxqtTAyXwc3+hXoIYb3dmwZ21c2SzaRfaXjk48+pZvTvSMSa2fHdHDUF4gNn2e1/QECqmririsW9MWKaj+uE53byj29QZjQb1WRhXcAS/a4UUX" ++
  "fNEO35jE4fMFiQzRmGtdSbZj6tOxeBiC0ItZb1ybl1kR7eLMFk+bzOKO85Z4X5OS5P6++cM+wI5nww7muQfwHfvRf3/RvifWMWzXYzGLj2u9KEw6GIZ8fh5P4saihl5Lzzw08FwbeWtxjdekhpEUfj1RGQxlDo47H17zdoPdl/YxtuzLbU/J1SN5IirzShoBbSFbdBYe" ++
  "2N1ImyAJxZBBV4d2MAtQ+56ai1oKrsytf0925dpX9ERTT7bDa44MoKNpNoEuI3oxG6ai5O4HPO4y/H+z92fdbSxLmiD6V/B+FtcCwfnRgXAggoiJMQAEfw12VR5JWyIxA8TIScM+qVTmyaGyu27d+9z9t+5n5h4TAEraO7Mqu3L1khjw0dzc3NzcfDJ3SwY0+JYIxF3S" ++
  "5Sdy4qkoU4TCjdKYpjc1vUmDviqenp3NZ61xgkv+RpE3w49h8E/EYQZ/XW/is6PKX8ebBN7Exhc/oTcx6XxGW9rKmLKYW/N4Lueed+d7UGA6vJ53cLioLI4WxxoNbVdJJgj/SZwflbuuF/BjqwZZy84/RUK3b+jqO1uP4tfkk6BwSvH6+k9kLvikgqnTpMHhrU6uDGb5" ++
  "tqhJukyTBASxr01QUEI3ovugalH8/Ljc9U3RCA98kT0WNzTZ/g7abFBjzyU8HbrBRh4DHjKXM1R2cxyEh2JEETdk22ZwY4phYhCHbeMEYmAjgINNMgNEtmHkwBtcicG1GNRRGEqS8tcwrvIrGkb64qJYdkSypQkZy6VQ+UAgIzKKYLM3/LIiiplS3xgIMkjMz3zWxS7k" ++
  "QHzwZVC3rvNBv6a9xDUCUSXjfb9qG2P8treypaNtHKUBvEmBYo1eYrMabpD2vNwNRRyI0IwCUSrw5wAsLoKG+JDw/liMrLE1isfxqOVB4QWHBKtgaa/skRzLkbBG3tgbiXjUFGNTjBr8RfuMauy6VP6OGIFIEzhBJPoBnUYRxxkqhRj57Kjy1xEjZAnEyBajlhgB73FI" ++
  "qCDKtsWH7G0T3flEEH/IdwUxs+6tWXwfz1KkH4MH+9GeyXs5E9bMu/dmIv7AqVtoDYcYKqUtaFSTdIjHELfaaBu703M7w5+2MgdQhTdFDNnCONkQEC/ZMaAVrbED3JrArQjcGuBWALcmcCsGtyJw06Rd1vG6KdauWPtiHYh1y5qqmrfoepwpurlyOILMovH+YFbLfI0T" ++
  "ImhG2ROTDwKqG0J1nRQ3oNtUvtUUHxrCLylzQB9qAvOoD/yGNEtzRW2MAYYpnA+XAnLcc1JG6xQasNNtio4gu3M5MvXZrmjbG1DZfSLTgEy5gkxsOULZiegTmX7dJzFC9twkEmNgRjl54bD4qLJM6LBYoIuxJsuFFtWebEtJCAjP+1UhGsu+7Md9YOL9yhs8vu35ZtwD" ++
  "v3XEWPt+VXbu21YvNDuiG8hL2pRLses1RA+o9SLRM+ASPV/0qqLnCEDpXSKkI3qh6AWiZ9NRxl6bzjz2nCrlaoi+IfodpBJvc6RTV9ypX1KvlPGYHsQqdBe3cT8LZuZb1bB/Ehcn9bfJqwp5I4Y1E7oLLc0qMxQHbHzink1P3LNBI2XaIm/JaZYzjjVT2WY561czBjHb" ++
  "NrA027K8BNgzZX9G268YKLNPW3CRbJBZizrQFi6SPGxNxhyEiVEsZTRqwGYsDhjnfAou7kDZs9GABtpQhgplmxoml6Ry5Ew1gYQQqZfoDLxny0T2BdqOGqlXkzXRRPt1RNBrIwrBCXtiwAETtK3hkAYeDHQ1GcgmMStYBGkWEP1hWxgWBiVhsfm5USnEyN0cO3FgEGeP" ++
  "SsqlhsTEp4bF1INmNYUfQCAo3ofkzQVBJOe9bpIvSsEZ5MolAKpJVDV1OXpIHZVEAzTWXSjU0CZJ9hF6lO4VRBi6rhz/muPfCLLcbUzZotykHdvxvORI22pOyN4CuSGAogn0PUiziWFhrKIC5MSXvox+3WL1JugZzTHvbDTJBo9oBnQ8Bz6P2oCe+0ECaiVXP9eQ+X1h" ++
  "CFr5ET66o4G+Z8dmTC2I8nsMQ0Q9QiIU/ZhYrCcM2UDl8e35Voj2M3/VKinD0mFgllqdkQgIiPR//SMCDlAMqXCMrCAStHopIxn2UIh7QJ+uA0ZDd86OrAi31DDFBKru5BJ/GIInVVO8U1KZYkPRfretl3NEII3YpxkeyYh36duz0JAFP7PXEYu6WDTE0hSLS/6Cp1b4" ++
  "QRnvsnRZRec/bYlptzQoAAuDC6nS909ClDHAYkhJ9fVb6za+lbeCjvY39dUB+pKp756gyzw9vkXAYSaFQdbqSwaGCo3lHdwG30FQ1xCq/HU4olrlawQBXzhoiVsIhDu6bPDngg4ysIZshjDGwDFE/x3Gg1j+eYtDO2ISiIktJm2qyXH5z+mjvLQJ0Rw1oExt51FxCC+k" ++
  "pSflRu7IH3VGwcgeheH+bM4SLChOyn/OWuMDWuMDP+GB1vjAD16gNTBcX99Sa3zg1vig2E6c1Ao3IFiXtYesH41yutIwfW8Gnm1ebKK1MMtqiFlN3JtidslfsNEMomkOJyiPHw4Us1DMlLsudthTQ9rLoDruWsxuxAwd32vwS5FJuCc68yt3bjrvtJ0EYWEYzx+ImGoD" ++
  "OwlAlSDQXcYXHoQ3xAWfjLjLGJS8B5X1ybvcYTFe4CADSmC+NfpUl5K3LBnlF8CbnjqDgl/2monfTAKyEB3U0AEN5XUTv6sDatpf094EQE3nD7U/1Pk7Sf6Op0/aJKd1BuoMyEAfClHeBFykwblJduWtam9VeX3t9bU3ye3r3HXtryuvo72O8iaoacwC7Q2U19ZeW3lb" ++
  "2ttS3qQkXZD2eZgh0QDsNvQAJETf6sdy0CedjuNMK9JxFsS8hBbYF0jQGbgD51dtxdkqyeYIEsNt0HOII3S5BvqJUf1V8xUGmwFHYzB0BqYHLKxB0wN0z+qSeQJpAUpHNtMts4nHUhodYoIOAe6foEPMtMymeSTkTV7lw8Q/ngthLeKFiO9qprTA4+6dIEUOdYgN4fTo" ++
  "ek56h4CsS0fZA3p3/KzXdmCuBD0r7GmNsVo+3POcZBSZhVcakewC873twMPD8U3h1UVRrZTpkUf08HhmzTB5k/J+xuHnI4jayVbqo/K+jb+qCOh4sLB9TBZFuuJzENbMthiz4biUvCop5q/FvY8xvwtbqo+TJerdNeWxXrTO3uoSN51SuEzOO6tlOX42bak9ZHZi7OwB" ++
  "5e4JA5fsCc1j7z3lV8jGvKjuFYJS3Dw51gqIJ/MpXnKnblTIihfnD7yXAqAQqkUQ+6XglR3U/Htftmzs22+gB6LoLRRbJouewTjYU8Mkck+UboxglT05OK4K6FJkklyi1eL8im2KzTR9EHArYmIlVImtJK96/Y+202qmNUuOlLR1JirySb0bJgOrPr7el2DN87o6F/Eb" ++
  "bxkW4/+icGEAnb2IZWuiVeLeLUbjsF8LDUFn3Gb7GXKT58TZdi339R9MKkxBV0vG2XlhzV1yHHsZV3EP6zagKjT3r8PyzsnevfmbUmLvec826zgKvxc9UW0WFM6Zq/cJd3RWbVybM7QH6jkG9KCBfnwBToiRM9Ia6aA+LVgWdjNmEmLIgzBqzaCiNMWsIe+te+8+vm+R" ++
  "JpJ57LzHST2ktJgu6S5mLv4qFnM5t+bePJ63oNTc5+Ig3SHn0VKRnBkWZrgzgyPubUTYuXz3YR5IO19+R+wdTJogHcYdqJjWxLGiiY9RhCYBlj0B9SbQLeIJtIV4Qp0VWqg1oXnrxIxBcReCF43tTNCWGIsaAHVJ3gCpIJcvkd/AX4NyGvSpUixKpHX1MOZCEyfKTpy0" ++
  "oqtcbuoCLmkgsEncSfb8YASVlhbx8RH06Uj6kuVx/PCHBkD6dWOy5sSjobTu7NgpWSDMnYD+yi4wQb18l+nB4/zreWPSgyfQg8fQgyekB49ZDx6zHmycVcvJOsklTf94ocRjS83egTXseAcY8SbSGyrrzRaFxQcCQ/tQ4hcxGMyG1kFHHHiccEr5xh1vEo+tIVt6PiBT" ++
  "/MZZrfrOSwpQ9rR59eJeW/Me5tZX1mqRY6gXbNgzpyWLtV47mfM6x0LlnOuFjqFawckt3dxru9y8uqEK0Ks8am1F51CrMpxILQtpS98bvXJynxjAXqRLJRpksuDDcIYKDtftPjMersrluGHO7PdBtvQ0zBd6r3BKilb5sjWmYX6lSGVgGPOEihShlqcKq1GjdP1I0WSl" ++
  "Mo94RUkZ9FZrVfcK0CxZhlIV1UkU6osC5GFCHVXsUmVQC1F6kS3DPlukGibLUgR3oUv7U/2irB6H5MfBIkvb1kztwh1QgsfDx8rj0ePx48nj6ePZ4/njxaN4rD7WHo1H+Vh/OPxRgsqPEhz9KMHxjxKc/CjB6Y8SnP0owfmPElz8KIH4UYLqjxLUfpTA+FEC+aME9R8k" ++
  "2Ij//Azxp7o4K/8n5og/1avlrclQslVer0OHsWd1696eqvPVpWgaRshxeNQVgSPVK7zFTAjF1L29ljVzbbnWvCVpSt+eU/i1NCmz0TUlVNF2ennWM5Lj4IF1pSy7YkSE3DkIIfz4uWARWE3xNi2lA92Nwikr/UFeCfOd1r2Sh3+g/4qO5fbaEGF8ZWRs4BuNTTluivqY" ++
  "Hn40xnpFSzrjgCYCkWj18gB8O1YHBntk6i/RueEyvGihfuaGaCAr6+tJ1Cf106NSk9MpwHB+RctC4dyBmnvVq6bPATOAXsNypF0IYXwLIWZySZIhtJI7EDr2huqbDwG5j8570RaQlODarxcKRb0Quu1nem0Dlz2QbivwuNyD2lTIC+1RNs3tdEe6ZF8WEhe9lPC0F4XC" ++
  "sAqprrwietR8xTLNIi160Ra1WtkNEtQta45A1GVWe/YlKJHnXcKE3LhMFfQGUc2OiqhWF6EtSlYI2LxP7wXOQlWXnChNmsXYcRaLmZIVWYmHDIIn2fztXKMs1yifa5TPVZXmdr5Jlm+SzzfJ50NtdjJOs4zTfMZpLmP/j5XXj/4QTVp/iCb+H6SJ0flDSLp/LBvdN/4D" ++
  "WI63M82yTLN8plmhaoYw6WjgK83d343N4dKP7VdboW9sZ8xVvnf5nfbrBcF36NZr/sFGbKB3/26W6cd/rOUb3h/qDJ5Hm22x625JkWWeOi6l+v31J6qxQCOuVE+MFoA858jR8LYb7z6Lvc8XcZ8rYmSQoWERmo7cgv2Q5X7I537II0h48XKsfFWELpTsFs6N2FeFr1nK" ++
  "t3oVPX2da8Qvo/boFSODTj9y4D0H9vn0WRa64NAFKyW8Aem1XbL2q6O/KUj8+FGWaa5C9Ypk/rZuaavkJM7uqJwvKp5W+3qJhWizAFSNKxyCodE4Sp7MAm6F+g+z+g/zZB7myRwX8wxyrOXJV+H1OvHrcXqh8NV26bW+A7hpBQ3Tuil5rzf7bLvw/KgqX63PIE+DQYEG" ++
  "FnoZnaS5EVBREgx4DHdEM4wD9L9c3n/K5U1VgU7Sn/LV5gCGU0DqrxlSf7eF799nUV/bol2M/Idc5BYJvuWivO/A3CZdPk6+CvJbgXQJuTSdflDzlIJ52P9XBvv/ysPWCnxdBKFV2hkv51mueT7X/Pc1yKWEwlqUFKbYKuqrs5vo9ep83UF1UE2K3y1tsVPaorkbtIvA" ++
  "4nUEFrsIRP/BCAzN1xFY7sJevg57uVs5Bqlb1/wh7AEleo0We5I3v5N++VMFhlK6vwNC82eADoXxSpX31cFIUv/7Nf8gEubvwOAmSb0nTlju72mQhvmdDKs9Ger/0b3vKpk8/vuDTueluwPL4o9WF3PYf2csCeJ/aAs4qYj49+uCv09IsWb+H4rBd0Twv5m+nf/wAY7m" ++
  "omo5jh5G0zv8u51iECSY/iBdofSfyUA3IQyRrCg5jojE1lRs3RRhsCe4LoD9VhhD2Jd9K+wHSL2u9xAdcureDcnUnJ/bI+dn9s35C+TJq5QFsJniUyxusVXcYqu4xVZxi1eKW2wVF/0vLS5TaorFLbeKW24Vt9wqbvlKccut2qXj2E9S46owNvw4fXEsyaUj8f0d6v0k" ++
  "+HQQ+IP5Mxm+hd82fXOy9n9Nw/yErMil7vwvZdLFKzOe3IxJTXjyAc2dEGc3kywm2Z7k5KIW2+AWOwUsnN1M2wVE/5MLyPrzTtrtOUYuarmbeGvG8F0sduYX3we9PZfIp97BrPljXIvziN9Jwe15xb+1RbbmFPmYrflDPmprNvD9EnYmD7nI1W7y+r8vy23NBH7AGEna" ++
  "P1Q2K/HfL2BLK//377DbWve/lVl3lOh/K8DlDsqm/Pmuu9hVvvKgOv+TxdVyW7BzltzqF4vonD+T0NspF9spo59NuSUzczHLbZiZ6PpRUgB9LelqG2raS4ib84hu59zSP/IxGVv9sBKdnyZhfj6gNPxcrNbv8yFKuy80gjB/tHS6ZyaUyrfflSsnF1/Pt9rNlzXq75mL" ++
  "5hr4d5Vm/iGKXBYVx5+dLzd/orQ92cJkTPxdOBp/KFdofmdpcbUzy17tTrz3rJetdrZYh2kpu1EJ3sHrVdqN2s/Zr6v++3nz9fSvcXOWZLWV4xU+flXnf42DXy/B/J11foVrX5+FNH9UwnaG/Zz6OkbG70y/zZ052hCqOW9zy7819VkVZ0pFdsyF5xluH97B9/Er6ILb" ++
  "A/JqZ4jeVRczxPZMLV6LyjrDD7X9wsAkCsON0nb2j6GXO2NoMelqO+8WSvmYm1djsrNtPNrRMldG64+F/t/1lDETvkbh04XHyJShFb5VtylyIelJqmQjLxCm5QgzBg/aQpgjw9IuhLjmkxBPsfMixDNZTQkpJom0Rce0Sm1xIIRtmQPtF+EBUgnhzJzMfS9ELiJ1RjEd" ++
  "4tLBg6uYjhySrZMAOKVl5YvikiQ9w3vA0Y4qNQ8dlKZX50VTUKqIsgi68a4q6ei6bc189zPLojiPzGj/Wz7Vy26+TG44+3Xe/T3k43Z/+LjTQwZb6KYznwy5v+yfOGfJizLl4yuiJ9dTvjOdfn0S/+k1kflTeH/aKerTlgT721fn3Htgf3mlCbZg5mVKgW6vFLu6fIWo" ++
  "q6yILUH8NZ//8/aa8P6lgB+Oc83XsP3Ld8TiHjIV+PrjDu9+fE2HuHyNoK+TuoDZqzyY0zpehfS5iNXn12ClCw8/Sa10YeE1an3cXiRNp0OvFfBSRPXltfa8fF1G/OV3N/vip1p7UEz1ioD6EUt8Tx7sLhV8Z51uN/Wf6sZFJQd/VzQW580/W4PcVPV1qf0agy5f5fy/" ++
  "/Z2ysEjH1zJsTZZ/zMTVXaZ/bYPn8ncOEIvXQL6a4XcPQfsGuy2G+6GG7vxI6c8NdD/U93fHmVfnMK/R2/gBiK01xD0pXqVjfm9yL+zF7wfp/LAJ9gnKrRR7utiPYez071fE6/6V61dxaf4ObF+XZoOtAf4nG/I7S9KvduhX4fwEynv70mv4FqXx95nh1SR1+QN9MxNJ" ++
  "r+HxGkm+s0Xx2mQv6WvfgTTc0/t/giGKSTA41eoDNQGJ9YTFFQLB9fLYFqWYzJqKsNT0AkEv3tGrU9osyNaxpt+RmCdHW2tHTToBvXVQxzNpZdTYWVTbOZSEWVLobV8yUDOs7WO/mLbx/GsX6PaVnClh6ek5HM3c9MTtkn7wEbYXI74bUIOw4fjtCWrVCunhQDqlHRxg"

/-- Part 6 of the compressed table. -/
def characterNamePart6 : String :=
  "IucIV7vQGoMwrmL+59I0sS1KyXxP3NzQ/K9EpXTpbps2hCRtWYu84OBwXBkfjY/HJ+PT8dn4fHwxPixPDieVydHkeHIyOe36gQwxZVbZqB70yQ6a86M/j+nNXXrXlUL+Ln1T7JHN4j+m74k9br/h9Fh4YOyRJ+5t0+I5vItC2BRxNRC1powe1Sx+X3SzhuicqRBp25aP" ++
  "af6f6rKSN2mZUlPZlxB2fayAkvN9YuuYLDVkKe5zKRxRCzw3ixvm4mqeS+ZR1ZNrlOz9bmnqWH6uTBXwfqtIFTrYSbZdvAoe7qTbQUWFf0ge3IusyPYyMIsMwI9aXF8oQF5hyOARcsAQofnk8s8jWzeyXPnYFq1OKfVtL8c87izHqCS1OLA7W61dDFP2Mbwg8iyyXmii" ++
  "nbfSvxLJGdk2zeuM9Wo0Z9bMwa+bbWXcG8WZ9qXek0y/nLZV82JgrmvsTb4vqhtKuhFJLdZV8bmAH7S0MiJDNpG3K1AM7FLLk90eMjyO1u7ScxiBMnmThjE/pD5Nr0LgLwpKwjN5KGlYgau62pILvzu2I4KyZw0hAk6Ocy8a7nnX8M22VHqr2PrNNuO+2WHcN7uM+2YP" ++
  "4775DuO++R7jvnFjp6rsobtvhEPbwsI13uqnYt+k14bfmB3flO6BY7kxIRWSkVG6NU1xjUBiIApyIbkXSkCf0/M32gZVCWOWZQCC4dn8WgolRqHUGspD1IWfhikRIe9ZORmp0tXZwsD3FgzWlsl94zQN7y6/3X+c8S3ZUiLj3g0Hxb7df7iRij59u+eE411u7fjtntOO" ++
  "hfg9Jx8L8XqvtXixKH8PJG7G7nfyJ29M8I56EUq2rO1wGXuuMH3K3UR59Z5TLlGP7vJ8/1bUx1zqDAOVnMeI14HvPfL5GvCPW8sN2TWo3cOk48J15T9yx5Zm7+i31Th6/Q7j6PffwzT/0D3M3Q3Tn8q2s4P6UzXf3Xj9qcJ27snmr8JG5vdu0Qbfu0XLRw1fzcpLDL8b" ++
  "2b65k+2n7rVu6/o/RU/jD+WK/lDb3fyhXDsU/qlcagn591/grf+h/nj1R649symE359rZ/r1U7mcP9ZJd69B/1zf/kNU3LmZOdoW3vuPt2zJ7N9dcHq5MV1y+YmxKnfb9OOrA0Qu0d/uGW3+mr+x/cpVboz79XqXTKABISMi+60HVeg3TX42QP6pXi8fdkn5U7Hbmt37" ++
  "q9iLct6cevU+p/O8z+s871O964Pvkb1JaFrvt1XD9zuq4XuhtbT3qZb2nnXT93ld7X2qqL7Xutf7zMrbwHPlAFOuIV0WH9Dl76HVkoPQuh6SlbcBW3kbkJW396zWvk/V3PdFFfB9TuF7v6MOvi9ow+8LKt77vY/r5Kz9PDYezUfr8fIRs/dH59F99B79x6vH4DF8jB7j" ++
  "x9Zj+/H6sfN482F3PvF+S+v8sGd68X7nqb33yQwAFRFke0eH7hpxFJvqprYxNnJT3zQ25sbaXG6aG3vjbNyNt/E3V5tgE26iTbxpbdqb601no7AsqO7vsxkRlblHuVez9/e5CdouX+yEd2m2rXg0P3nJuGHPxPD9vonh+525z/sm1OUmPXGlTU9itjdOHoPxlvpRmSfr" ++
  "KX6ST95TRzzHz95TFI8OTAtKN2X0AzZqj+5HxgrVGy2jlKxLaxkv5dJbNsXKWsUruQLUzBllTjdzmpnTyZwdAYe3DLKQtli6Y36KJl/4mDj7YCf4vbZrqJ7xGCZ2JJUBwZyVwLm2EkiG6OZssm9zwCbqHtiU3VxZypvn7BPO2UbfRpvSe2C7dw9s4O6BgDxoa3YP2sSd" ++
  "hsPJ5tqYYWoSb54Z9GMTh4vEUN+cjeopS4fzzG7eXNtLnGsbhon1w7kubK6ecqjXa5W5WMh5RyzlXHoLChFz4Luce/M2BXokEI3KvENGONuIWFjzTkxhYi7jeceaW/DIck5iZmLPZzKz0/V0mF7Z0u8xV0XwviO1EGl7rp5Q1uV5jr1Jaoe08mZmD8ozd2vzFvQm/PvY" ++
  "z/uYz/MBOWsY7FdLNUpSvNcrH5ATNlW3ftG13EitKgh68M1NJL5wa6YX3IcS/VBgvn2PVBDC5Ox61UtZo0cV+OEnmniS/XN6YEoG3b2hfzosl8mkmSqmmhmXrpbL5yUxOTovyUnlvGRNTg9L3uSwXIon5cOSISbHJyVDTspnJcOaHB6je05OEB5Pz0qXiDwtXUqGbUyO" ++
  "4PYmpyely3hydlZqIva41JSTU7ityVm51PQm54elZjwtoztMDo9Kjpyc4Qu4JyXHm1TgRqmnJVdMKsclV06OyiXXmpxUMG5OT0ouIo8gliZnlZKPyIuSj6yHJR8olUt+PDk8LV0h9rx0hboclq6syVGldOURfpXzyWm5FADwGcg2OTkqBdakXCkFKPa0FMSTo8NSKCbl" ++
  "i1IoJ8dwA3IFfXdycl4K4+lFKULkcSlCsWelCFlPShEqi/B4cnJcaqPYk1IbWcsY6acViC4q9ag2OTwr3SDyGEMkh9QnlXLphqojKpPjo5I4mpzDDZKBqgBwUcaPNzk+L4GHJhXUMa5MTlFhFH0GTJHrCMgj2+k5sK9MT4FaZXIOrCj3IS16UkEn5Q9s3qVaPjwfX4wq" ++
  "ldHR8ej4DM6T09Hp0fh4dHYxOqcV9dPxBWU4L/+qhbNTqsKPNnK5IvSLdpcyANIYmi1jRspcIGcOhD/EM1n0P62XZJtCkH16Vqd1oYOGJyKEaNf0HKFeGwFVTwTTizrkP/vQmYkmbRMD/fSQuqktOygZw2xLTo/oJYSaRNG1DhSbOPzV8dwEywqxme9Nz8nYvGh6+RqA" ++
  "dzzLBsA2Pe9UyWcDAYG+LwAUuoOVz4X2g7hwbyQyNjzbmFaQqO159vQUTIZAeloQgUfT4zzEk1Myi+xV8qBOzqbnYJya7UUmmG96iDo12EJgNCUEHGhI0+PpyfR0yinRRSgN4gA4MhEFoFCldOy5juUsF+ATQkbajozGFZCv7nkRhmIgegISRmYUV6n7hD76O1KyJGLg" ++
  "IdmkJ+DMq5iu2hikSE5YHpE/cVUSF61tOdQOnJbQzVW8ckxyAbyZq3jlmNA90chChARRVslRC6qetIk8J8tKubw+XFfWR+vj9cn6dH22Pl9frA73BVYoKPGclJdH5RMwLdi0K2RDQjVkS/upsGT1ZwZV4m3NlBC+/PYdpT97q5VoKKtkcIgtG7Gloj64rQdltU/Kao+V" ++
  "1R4pq71Iuv02Gq3Th8YRdZAY375Vh5Pe4+twBng4S4fz4IeeMDAxJAXSYMNG2q0sKSURbCEpiSHLikkEAKfhBD6NkGrzQ/uorNRDJZKtadL9ucjEo8pMo7jQNI5KTaOo2DSGy02jVMGpl0vOSsulVLTKFU5Ey5ee9zIZC+XnIxVht3DoFJHI+amBj87ethWqZMq+FGPW" ++
  "2KtbQQiNIK6yL5Q1jzQF7YW2EmQ+og1fXGXvW4Mee5QiZMOfeShv6ZFey3glMgktFtUvFKUNvZOG4pse7RmLCNpG/nXIFaklKwMDuOmI+zpaagFqLTI2WSc1X+SpSAkglkG68J4bRrvritbal+PPXIrWbmCerYopt0PXGA3oBUsuNXGrUhNfvtQsRWs3sFBqHu5OYL3A" ++
  "QoW0jivCoSkDAT23pF6Sk5EJ8T6kaY1PhlrpvUGTFCvPTbzStwyB5oOXZrNpUvLUOpgT0YumvLWoWibcypGFY/Ytb5RBWKrkGjg95p4K1aeP0sIRPXRIPKa+rGzprrgjjfIgUfHn78DjBBkM9i5zLbCM8sIoX4t8k2zXIgkfZXBziWsi6GB2vh3siuudsHwbpO23LHDW" ++
  "0JC2mmlSKDdnGEHAp9XhsDdcJ9pQJo1+vEWRN0oUWqSPU/zbwmurap+oI5PtI8XKyq3bUXk8UqZUEsAjXx5c5n/D4jUXT5jnojFeB/SgmPI1OxiqvVAJKw6xreTt0DeY0TQt7b6WYZoJmIuqSv7Oi5PUNPgmyEZBp0pqWQ4uL0IpsJmEUQEhLe3w+8Xk49dq1ckLOtnh" ++
  "eo4VargkYC/K3YBUQgi360i4GqXYrSWYYu6b+d5dR7GtIwwLM3wKl7nA0CJJmqRA3wqsZJMQAjbvDYkCmJAlfiP2IVxTr9C/NCOMcwdTQkaFTR0S+qKsBa+2fhiJuBSYpDEfGvwwrgUlit7LCGv6vUFpoGAAdCd2TLZ+6d3NMYQMdK3EVxM+2UWemJZtjFlhHmvNrCFi" ++
  "NyLzymDZQIxZCxtX8RdiVozENTuujpFeYDYYTgGz1hyHoj22LQPJPGinmGYDfuDTDnMHAky49OKLbcXOmE6KjEN6Kg9OIOeOyX4uv6xgWv6YNNUJ1LIxadghPYQCQNEYbDKWosEPx7ToIRvX7VDGMcNmjXPcwsA69oXfgb49DryQViqAk90Ze9fgKSBZt2MENei53WBM" ++
  "fRI5golarLmWY978rqIHj7PjLMWX7UHxyjkmpJ0adeZksaYne9W+2Wv0jJ7Va/duMDz3LnvN3lXP7jk9t+fg4/bint9rNntBL+xhVO0JqGtuz+xdE0w0cI3ODuVg+hWAs3txHCOLbfREBfCqgOf1jEoPGoE5qPR7tYPDc0AG+GsUFEUVFBKGQENSzrjX7Fd60DngasAV" ++
  "RgN4Gz3LQsajC6SnVJVeEPSc6qAyOBoco6hKT1Yo/Igwk+VfPJ+GeCiptUyVCtWjUGod9acfyrjTaiwGhikrXFMeHiasXk1JNE5YmZoqHWqiVKeJ0pgmuUFgklNOp/nxYJJXTqc5wT3JKafTvHI6KSink7xyivofQVfHhKpEK7M5q9Cjqhw15ciQI4m5wehGYlwZYWgY" ++
  "WaOmGEl77Ixd8PPIG/lyhFnlqBmPiOVGkaQHWZvhyKdA/Mn6OAhHNcpqjWLEheEHUAldyGa60hgyBr3GPHIQRhUjeSW3I0f8VjfGjVIUoiAvTj3dBiZwOYzNkN6StQJMOXsNq0ovzDbCnrDMVhz2rhCBYVX0rPiSXkNs2KRhAhiU17DXjCFKe7ZoICV6vUtP0yIu7F3K" ++
  "oBejs/X8JL+eRqBjGfRUbWwBkLTaIT2UCch1lBf3rEYDIWYbmXoe7YT2tol+oojuk1aQVcEdVeNg1BDWyPAsEP7GxI/B3xsRCTjRStQC6KgjW1ojTFo9kIi/LQ/JfInQAH8hiB0JehyXHv3poIkQPanRd9QJOmNM2fkla1mnR6aj0IrRzMGoI4OpNRbRyJKjTkyPYYvc" ++
  "ybd9KK+B6pqwWzMaaxRMFYQMiek15ihvadwXg6qM6BlXxxZ0JXQARYJeJvYGbW9wI9mJTySjQccz6PjqgCyj07ldenFVOgMD1By4sTu4iel5uaag46sDnzyGHFx5Pl1QC01+y5iu2fGe5SDy+KnzMIwJt4v6rzwtNawW5HCQtERo6a2Mkhhaw3gIPo+HDfpcCyhQw0tQ" ++
  "YxiR36BGiKEpiaEvhlUxrAuoUghxVERHDFuUOKAwWwxDMbzBF4TmN5kJh9r5kJ4kd8SNIcTqoIJJxfAaKQRpHhYAGMLsCBGH5vKggiIIjxhDvnmbR/02mzWzfJLuhKXOOGO1Y/RvDJX0MOz2Bgy/k2Ct5VpszLW38e7VA13WRm7Eg7nxHrx70bn32vft+L4j5b15D/a6" ++
  "x5gELV7eG/gDb8n7S/w1kbCBP1m/b8ELdf4+ojgZ3t/wj3l/w/5gbs+dubto3HvWvWy/K+y1KISWcilW5tJbeVON0EquxNpceWtvKjpTrz1tx1MgNDWnQGgKhKZAaAqEpoTQFAhNgdAUCE1lfQqEpkBoSghNMZzf8I85vWF/MLNnzsy9b0w9ayrbXbRBKzdMoQC/H3lR" ++
  "v2nVmv26lDRdbJj90BtAJ+/XzDiomX0oqn2QvNGvWtW+Ad2j3xCNfstrI7Xs9G88r68nn/3L2GjIftuTfVMcmKJve7bddyxHYs7dl41GH9w7MOhp3D6tb/Uh8frC7AeeCPrg+74U8AOCVZP92O97ojnwbuTAsvuiLQcowAv6kDt9GeA3CEQHOYI+agQk210P9KaXknPG" ++
  "//tV0Y9E/1L0r0UffRL4S7sfiH6I3mhZbh9drl8THRd16tdF/0qIer9JH1sAqkNJ3BiYtUUbdep3RF/0gV/f68d9IfjBcFLkjkX5XbYr2fvphR7KWi3/F9R5ZwNxZt27M3NaDQQaXkylie9sZrlT/HTE1AIXIBAf6PNTW0wdMXXF1KMUPsX49LLkDDkj8uEThewIyYVg" ++
  "1HwaT9vIDwckyfSGUhNCxnnx9T8xsabuxBwDlTGQGDMqk4kFjVNMOmJsjZsUiA9QGdsCyuXYFWOPUvgUg08oJsgZkQ8fIDFmVMaEyhiojGPob2OgMgYq4xtKDVRO0L+ljQlFTrXqV8GZcmBKtGXfxZ8Bp7QG4N9+Qw4uwXvUQPhtyr4tB7YEe/ZdORAU5/V92b+S/YDZ" ++
  "KWQ4EX/jfkv2r2UfHM3+himHNLsB21AznRyRkhfXBEtSAaTcvMJnR0tI/2XDcpaGiJayurwRgb2UHXd5AxV9GYlwCaotO17bQIhYWkF1ibovoQAvLXDt8prSGh14oUsuL03vetmEw+5Y0RL9LFpeic5SeAHAeJ21terA64grBAdL12vXlsYNBQFmc3kJjsasexlRSF0A" ++
  "pxs4UH60hFK/RNU64RJ69DKUneayJTs3y8hqB8jsdZZWGyh0RHtFQADAWPoU17TaRIbT+rhm5Q4IdFtWZDbjK2uHgefVqlzIeU0uTDk3+Cutxbwu5w1u27Pa3BQLU8ytxaWc439TzG2xsMXckXNXUqA39+X8SswDboHz2jxkMBF/43lLzq855uJ43pnfKOfZr1sPAAKN" ++
  "ezmrQcTLmcFfad3P6nKm0BBH+kViC8J+hv9NQW8B2mLmyJlLI8DMm/lydiVmCo3q0SxkMBF/41lLzhQa1eqsM2M0TrN9L6GH3Wq5fDiqjI5Gx6OT0enobHQ+uhgelkeHCIJ3WIFzXB87owp/j/B3rNL1MWup9qvlysXwiNIf68zHypNBO1HQ8kGnFKS8F8OzMscmcecU" ++
  "V1Gx/cNy+QAThn718PAcuPQPK2WUeUh7OMOjQzGu9g+PDmsIOT0enh1S3vPhxWH/qHw4rAyPhsfDk+Hp8GyIQKjXo9rgsDzkGPblowcVHVMIPNoXeLwv8GRf4Om+wDME9qEiHLREODzkb4W/R/w95u8Jf0/5e8bfc/5e0Be1+COZ+ycFqhAuCTkoQFFgb/331P7ktXqj" ++
  "1vkSzvaR4Hxf4EVW0nkfnJom2UL1lUZLUT4mB6FZrOrJ95oHfePsuNw/Kx9CEa2UqsOjkjE8LsnhSak+PC2Zw7PS5fC81BxelOzRQaVkV8ZHJftofFyyj8enJfsU6JXaw8PSNXJ3kJsfKAUEUa0CBj5nJcMYVE5LstPpDI4qaq/47LTcPy9vVYzCocrvf3E0kWZCDHO2" ++
  "xnhRpsF3H/gU0ZqXALdDh2pNAkJHA6nOqskDR16Tiz2bZQ+oPu17IvULnaC5lzdmkupepaKj3xtK8FxSy+CWPUveRy6hRNsjRxrCj75KSDt6MUMBmkEzD3lPMcWvMWtk+GWhuTAz/5hwmsKcmekjx5zM8CI6V1W6zCdnRDnaTl+Fvb/ZqlcVk6UUrp0Ls/dRh0FSNFFo" ++
  "uS/FTD8Z23nIwfL21sKT94pqzEuzqyRrkDwNzK8BN75xoVulBLlWqWMGUyBgMItqxWdwuVHD7zY8zSe2aLNVZiv/VnPCUdVKWmxn0LC9SD0I7fn5Kg9Svng1RdWyRZWWMms2JgWYw/J1MeWh84ZB6hN2S3rM8+zNkGT/PswHqmuFGS2A+Tk9dtnxeds3PSEihhLTVA8T" ++
  "1UvBac5HHv8KmrnSQo3Hs8/U6WRON3P6mTPInGHmjDJnWzupmKMzTItHkp01TG/ZUR95XYsOOvK5P5reFh4a8805NEBzzo/HzfnBOHMONQUzhzk/BwcPQiL6YP5vQt1BFn61zITG49ALt3P1PNuck0P1wbwfEDDxN+f0qtqc1gvmkSBF7PzkbBjKbNF8mM2W55h6LGjq" ++
  "sZDugqfM89ziW7qBN89vbXV9YTu00SQLVRpSlYZcpaGq0hBqMao05CoNqUpDqtKQqkRPwZpDVaUhqqQflEHFhvSnKjfkjL4ccuWGVLkhVW5IlUODtG/r0UH6yg94J6bzVMzsu8FZpYeo9IgqPaT51gjzLeDljrj6XVdURSRkpq8rxFQV1VeFcHV366wiTfla5VU8k4A/" ++
  "yTt+viaJ8mvC6J/0vcPfTymVmOmVEI04Qpy9So/3tSCuWXyHTSfh0MRdoNbQKyznnUt6HDkK8pMdEIxe6dMvJarXEc2DQL2LSMey6QFEt0cEojcP+aFDesfQ148XmvRYIb1NqN8j7FFqHzNkqmiPKkoF14/56cCerl69mj9HQThnxyTyRx+6vulJ1yqs8dv1EfAd0drc" ++
  "iJblaMG3LeLRjbDgjEZAcgQcR01RH9F63Aj4jYDfKJROcyQsl1eChSFHV159FHihOSLURpGIP2RIjWill/EZ5fAZoSXG1BKoxMVh/UPx1EjX7hiFnYMq70TIXqtn9Tq9pt6E8GjnIexFvbhX713RJkSyB2F3aP+gRsCP6m9zqog+f3JBKo4MPF6tNKHneA274+cXlzdy" ++
  "Y228TUds2mJTFY8HlY0vNo7YuOR+kBQQcLAtNpiib0z8hSpu0xSbK7GJ0pQP3sYQM73T1bKMy+eDyq8Q9SGt5qdTQ/XseUdAOs6rYu5jzifmLh3VDGgSOEcpc5QCATgXAeatdL0dPp4jYj4YIeXCg5Cl+lVrwzodOCRJKG11gqQt7Xpkhstkl3Zoew11VChwoqXl7BWX" ++
  "c+oTC+A5D63rBQGa80rNnFZqSFoqYbrgXY8573osaFl/zrseC7XrQRgZlbzAned2Oxb53Y55frdjkdvtmOd2Oxb53Y55Ybdjnl94n+d3tOf5oziLwlGceeEoziK/8z3PH8VZFI7izItHceaFoziFgWRRPIqzKB7FmReP4iwK5yjmxaM4i62jOPOtozjzraM488Lxkjwl" ++
  "tgMLrbBFmZ20hfMpeUrtpMy31DbldoLzbZedPUgZmVtTcfGSG1Nz9Eo1ZsLfqjGTOG7MJIobM4kp9grdmIlXNWbii3Ipu+iHJOwi00r77oeWh1htaIJWP7wab67RcV9RPpnJmceu2tDG3IBvxATND5xcX2umN/X0BX7hxmELgnDQskIRNESyN9YUY1NAXI95GVAcnoxq" ++
  "HHKpvBcjtyNGUGAnCDMM/nGh90WcyOAvvD47qvyFgogs0AKhNLbEiJYdQzEWGAFoj6jZJHCRKaaIVWUenSukyVIG39QZ1ERsiAFd7mfkOVH9Q8siVfBDupdaHHg/ZHumuyPDLGn3D4V2J4FFwE/KH/zYrUWxWm1Dwfd6bsonue/VD2mGfCQdiN47EP5ksAMTmigO7w3A" ++
  "FnNFdXbf06JUSMBP1SYdbzqW+IJyNgiZcqGG6QWN4AuMhQsakxcY2Bc07C1opF+QArCIKEhECxrbFxgwF03OwgP5iob2RV3yewnLjrswTApesNKwUErDomFi7F+QkrAgnYHScDhpDAs0SHsF3yiT1gveSZ1CC6+V+NgIDaJ/wxupu9UwqR5knpENFy2uRJ3rIMODCupA" ++
  "VUAZ+EPAIapQ55ce2GAV1YCCj4C/qSqAehsIbBAkIL/g3TcQwOT3IwhXm+ywwiEpqIA0mn/Z1sODqGFAJostZl4jZaWKlBRzTBQcMZHGJn1HilRKZ2krrozTbWTWRcHh+KJ7ZG6GQnQlxcYcUQONrumD6uGrGngEcvNvpH9TvYf1shHDY3DQf+qsApmkAxEs+lyZ9CV2" ++
  "YH1orJWi9gdRrWKuaWXrxKoPbdKeI6t5xYm0uf3aU6ELhBF4XOv+91qaUH+k+aR+CjzvWd4nz3sy3+tLMCidXloXLRlGOfoPxMAbCG/gQigN5FD25UD2vYHXtwZWPx7EtJ1wLQcdOWjxRkODdwlqknYaIr0fwbsJkaQ9hrrsV9nvNuSwI4eQH5zZ5e0IE3+dDpXQor2I" ++
  "vk17Ef0bfJHjxqRfxJKHNx+qRxfvdijaxUyoU0ofMCU7ESw+iCA5omkzED9OB52xIX+c7k0SxgnS5PkUFEhCPgeEZf42FA5MwagceYwsVy27wU2Pkwv0cWurxzxQj3ngzvKgusmDKR/QTR64XzxQL3igXvBAveCBesGDYv0HsPoDWP1BsfoDJ/flA7P4A7H4A/H1A7H0" ++
  "g5qCVE/O7zOmfQDSjyToH0jQP9BBS+behxz3viQSfmDaomUVUN8Q6htGfaNQ35gSKnj7gFDh2dSGK7GhSmyoEhuqxIYqsVGV2KASB4TrBjXZqJpsfLlRlQDmG4352fksw3wDzB8I8w1hDsjuA2O+yWH+nK0MhHy4EfTfrcM91eGe63Cv6nBvyvtCHe65DvdUh3tC/57Q" ++
  "v1fo3yfog6zuvUL/3pf3at0D6N9r9C8uBsliB7H+QK/QFcKyp3/V8hIUl/ARfsovLgZZ9UkqzKn695SFTu3Oufr3xYlvTR8eQlnNbLbkBU2TbkqNOphjhtIqiZUc6UArDbSWaaAHZxLspaGimgGopoEyFyqz4EYW2sjS5kJlFmxkoUaWFmPZTRoBZxLRyVJ3stS5UJkL" ++
  "buaCm2n1csFeFizsLLGdgbAXmHwvnYVwl9LNgXOTJGiHDE+40+BaLriWBXdywZ0ltJ8sKk+fXLi/8PyFVVvIHMQUoLjKMl2lzZoFWmmglwV6aaAIsuxBVutgCZ0bGrmZxdLpMo1QLlhmwSKjg4gyULlQmQZj2KsCIvHseflv6KyGOo24vSP7gKl+dSOc6kbWHtzaQy18" ++
  "MDbo4hu54X2DktyQNHtoPHYezI31YG3k5UNzI5qb2G1upI1giMzHDp2e2bhW07PDahxAhMtNEBsW3TIS5PEgWaT/4PgPwUadcpHBRoaPNw/Rgxs9QETWzE38EOdhxHkY8MjWw81jiOQHUNV9qQ4Kb2LSXWu1cq+4x7tGJ6yuULGVrK3d2roWro0VKraSK12xlZTr+rqx" ++
  "6azNlbW2VvJy3VyJ5goVW0H+dtbO2t106BTOqlCxVb5iK1RsJf2146+DVVKxlQw3N+to7UbrqLOumat4Ha8KFVvlK4ap2PpmE66LFVupitVFLxNTU1KKpnTYUqm8Oem0SIWzCUWybpUCD8KykTv7cl8V976A+JxH4v5S3Ndoi/seqt99XUBSzzEVCMQ8EJDOkLZzihP3" ++
  "Ddr2xhzi3hWQ4fdNi568h6OTuOEAb83x08KUjeeBYkaTQEz6BqzlhQIpp0hKjEmW4ElZxSSyKqCVTqEsY3ZC4MOQTtIZR+VBdmxmhhrOIJvvSTbPWDaDAjNMZO9p/jrjaetMH5uRmMAEsWOV0onXB2S9pawfKOstskJVvr6lrB846wfK+udsQnbHUv+OVyhueWHijgh9" ++
  "y8sQd2r14VYtOtyqtYbbXBvc5lYW7vILCrf5dYS73PLBbW7V4C6/WHBbWCO4zS8N/HlnZjjS5+hHfL+gl900IKKcl7sdeWMZ6Sgtbaveq8qeT5pkD1OTXih7NcvpY2YxwF/PNEXvms6T2r0b/AWij4Ab0bsUvdBykcztC4OsvvQihMue7Li9a5O+YFZwwdbNB7JsQnZK" ++
  "AKXea+APA33PsdRib8wmO3peuyfbPfBDr+NFPUkDtBTVt9lRTGUeg/hpqMxpsMkxZRQi038pW7WcWJBKTXGQaspzDYKuVYGchQSKQc56OZn/NoxtnXKc2x0Y84ws2xwY63mZHCd7AmNUaawnYZSAdJwx6ThjpeOMoeOMUftxusS/VlhlJgOFZY+V8sNzrUlKUYbqyzHr" ++
  "QxqAUu32gSBtS+ldShXj2dgYGpTOCde+orfPWRbPgUfJscsJ95Nxvgfs8OZtatAxhwZR+6jc3UfpPpG0zySlU1t0yI4p2SdK9omSfaJkX1ESEyeHjwkqWvU5JRibKdJPa9+navdRWczBAMVG+DvLNaQvXYPv2SD6XcZs6XrOKJ3LKG/KSFmE8tbigKxqkHuukqotaQq4"

/-- Part 7 of the compressed table. -/
def characterNamePart7 : String :=
  "VwG8Z8yhyk/IaafeE2fPu4z0mEO6A3XlM0fid/nZL6GRtlxVBOHnlOPDiVoMSgP4iL0KC3Op+LjCVlJqnzPVG+JOw4yD3SUJtRpxwEsKaKQRN9Io6QGFJQZ77zqCnywdpEsFtEoworb5UGwKpuKCqTMt0v1BmejMU4SWvCgREWPF8/x0EkC1qpa7ZM9AhM424420jY+t" ++
  "GhZXWqih6aJyVuOfqmuyXFKoamGXSO8HjXincu+qB2Ev6exjZ2eXOd9nFLp7uk70+/sPTcO4E6X959ekMzPgAwL3p0Oyu9CtknldS60B16CG0Lqba8S3yXLurV7Ovb20zJZwYtvqiNvYRzm08NURb9PDnKJn9a1e3I976TryfTCz7+2e7Amr5/VEjOGExqQGf6F+9Grs" ++
  "ulT+juhFdLQeQ5jBP3TDIeI4Q6UQPZ8dVf46oocsAd2IwPDVgw6G+vfp2kTPRhBP+IRjQbeEdx5ASXIB8W1u0VuIUdWki7NkAyYmrzW2RvE4HqVVWAVLe2WP5EjQ2QIRv+M14re8BPsutxz7dmt9d5qsaI1pvWpcyy3tjnlFl+h/UvkPuE8+SjTOt5m+dof4O5Tfo/Lv" ++
  "qPweyr8DwB6Bu2NgdwTrLRMuo61aM0+4IAvXOvWDl6f3TvSLt5sTjUW0OasntCHzvjLoNgWtBv6YU/dx5B/iQMNkZ/Bv4cQtbkvYK2UnRU5FRIzezUi8LawO8h1Qqe4hZQE5S15v8wsnb/VCaj7s3Q6n5lDK7fhgzmLkASf6FVR7GvHpnqjn+JIPUKnDdcKcYBYwwXxg" ++
  "UsOfgb8G/hz8ueSwyYG/Fv58/HXwB2mDkcucNPF3SfEUiP9SmhPLnMTmxIOHgHDR9fJdxqTjn77ehqxk26Fmiqa+e/pzHAOG6RGzNAU1K7GJ+kV1iFOU5zIJ7AhmF2ISZhjlAKsQr6g0RpJWEMMod1X/OvjrAEZfEOsQ7wjo1HRbixinyDm7jDPyrLeeanQRq1/dFQGX" ++
  "wBINjk7/YB8v8NQOAxVMqKVa+zbOYiStJLKl8Dmh7RJTXGLkyBbr6caTHHiDJt05GjT4W+PvJX9B5wHIPKJrWAb/0Gw04jhDpRADnx1V/jp0t2pgY1pLz5ehUQaQ/b8yUtzDft3pYb/mK/xrqvmGZmAR2piKhWQJydjlpbuEl+40L73LNiHS7Ya0l82De3tu92Vf0LUT" ++
  "EWNIB3r9Bn/BZP0auy6VvyP6EVezb3A9+6h3n8VT31ApRN9nR5W/Dl9qwbTPptr3WxBCJlOA+O1doWnG1sQax5N4nKK2Dlb22h7LsbDG3hjjXE4w3YmWaKDnirucEnCXUwLeec47Zo1fc2zybofM79KjMr8iAWQ5kzttF41ieoiXpZe85gvtPFzoeAoOYwpmZ65ifmDR" ++
  "DjcZQUSsVHWwXNK0yUpN1mx/6IbPO9kUjoIZWgZtt72j+9tqFoBpCJ1niwu1zZjq4HBaIVaSh79YLq2clJLDMOmix8+tlwyyRQ+11D1nNeCe1YA5qQH3rAbMlRpwr9SAe6UG5JfFV5ndk8MKhGXT9C6bWbfsJ7JwZ+DcM3bSXv5h5fDoRzqcsTt67h9AEyVu3/C5PXjm" ++
  "pHk2it4qa9Z7hFfxzNYPh889w7HiALKGTbWmM1mxHeVFWh/dHp086dyc6nxgKkeukyuynde3u/oPeztlu6hv9Xnu8ETNPsQd4gr8Rzmq1MixIdoiW1QSIzG0RtYwHsVDORR0UFfwlVJT0J3SBjvQ1sMauy7p3AYHdcQw4jMaQ2A8BsYodEidYgi8hyyuh4ZKSrdPyVGl" ++
  "AxzkcARdPUV6my6g8oVTqvH7QnO+LzT91JpZ03gWT+VUWFNvKuL3mUDvq5anOtbLf8ikKLLSBXMIOZeMrCspn05mE5T0YtR3pD/DOfnuGHBvc6I6XTgUNLwcHR71vX+X0YCAVfaPCRR1VFEjA7tPtsYHDqzmLlFzBdXaRpEuTPJ0SPjxuEKQj8/GkoYWdlfH3vYIQ+En" ++
  "ZQwj7Dh7B5Umd+SIAw2V3rfjKB1kW9Igy0e6Eabp2xT6JFKCA2huv9uj9WLAI9Cnp7lqJ1XNuGj+6sFCynxWHiWtvWiKhSsWLWvhU4XoRrMr29lC/p24te6s2/guvk3JMw0m9tS+lbfCuvVuRXzbFHemuG3wl2QsfmrsuVRBHQ4CJ9APOIF+wAm3EUcbKhF/ff5W+evw" ++
  "FzP3gB02f9ssJe9CQswUfy405MAaQi8bxoMU00Uwtxc2NDVh0emK+M+55nufG1rfZx1Y9Yn3zDDvE4Z5r5dkdao/e86feTS1/szy+U1OVv+ZTbz+uSF8fd7jzzvC+M9ZO3346Y0DXYaCztYuTUw/ZXLO9vD4xPiz5Ya0PpcUE2YKy5/3Mp8iR04/ep/TjwgmxonICkwy" ++
  "2y/cS+v/GXriH1US9fRdKYvKk3Xp76nHfdYnt0RIoyXcxh51kcXBsfFH72MfnpDirjS10v+e5KZKVM+3tfKfJXCipe6q5pmlQ8OLMCoH7wLpy8jK6avzyvzonXSNkleHsnkdab07p1Po+1KBxWvxdKMqTjZC6W1q2iYNvwA+6956/YvuKndCTrwd81WL7ywAoP18wDR3" ++
  "6jS5cAVoU738Xcy93M69vIqFEcTFMBAi2gpKltr5ihjAf6FlaenS7jMmheEXXpfO/ElHZmtoB3pBPttJswZtb0/oZ6uf+eICI2TBDzHan+4f05To3zSMbI8hPxxAtkYPNXRg3LhtFQaNW+jof2zg2B4lbnkcEQEYVrH3nuFgV/qrPem4RRL29KT8h0YDynpa/i9uw7Np" ++
  "b6FqARvFXAkXvw/IqjJ4leOSp9P2JdQ8ty8qF6YB7AdfzLbZTpvOZjnxfD/AsG0FtkoxLcJbbSdNjl9lOfaCJCLRCCaaQcaJPXFn9ay7uBffyTth3Xl3Ir5rEkfdseZyB867q7HrUvk74i7i2eCdmgregfPumBXvDJVC3PnsqPIXogxZIN2gsbTAdSaViXBMNt4U2OiD" ++
  "ZqM3BWbcndq8yWktH1hKvklqo+fjTVO82WE0qn6t/CZjLzo+QMcG+LgAHxOg4wF0LICPA6hjALeavc7ojKrppYNQM+mWd9TtbrMeH2X9jjrdJfotKXtm0vlC1XnhT3pqI58dngZlpp5u5iN4xnh2aEChckPPFdpEYUk/hGGLVSBWvOxFKnBQ7NLDrE+jD7epD1tDR3W9" ++
  "pj6Ge3h29Mc6384ZDgVX3y5Vg80H9fM+iG1hvUmuIyVqWG2fMFN7CHQf1aC7Qv+xHBvmmHY/e6aychlss+o2g9/lOHcfm56LcrctyO5fqYbhfPvgGK1kr8Sqba068VqsvZVlrWJ+jGCFLKuGWDW9lXQ7iL5cxTU43ZVnGCtkXrkxUhjIHq2dVTVe+fHKtDre2rO9TRCs" ++
  "RbAKwzheA2ILwbeFc11U7kIs2taiEy/F0ltY1iKO6erXAuUuGpg8eQuUi+jLRVyD012g3AUy012ExsJAdjpuWI0XfrygcpcodxUESxEsqNwlIHK5GRuOdrZox3Q4HWw4JjYcMRuOiA1vMzYsHJHgVbUJraqNeVVtolbV1FZDZ6xW1Yjq9fqt53QNgIfi0IyDOLO4kyl2" ++
  "JAsuyhdjj39r4yZb0mnwFwQa19jFq0IXhydj8N4YvMe+8zHYb0rpXLK9Q+kMlU+MfXZU+euIcYct+QRsvqcloJ2LSUhYIBbdYnyDMTzPhPfW3LqP5/E9Y3d0di+se0bwqHpb4MBhTu0c0hKmG6Vrbn4g69Y1xhGXHntl0LdauEBeJY/vQIjpQLiytYRbIzfI32azvdtt" ++
  "7ZOwOin/oQamrOgZEH0Gpp90qHJfAxU17wvo5Knm/WpjsV+1FLXP72im19soCF5rpBTDJ8bQEPeSG+weOl+xtbS8IIOdEOF6qjXUU4LbbOH69vX1c5QgIEJvBF26viEbt+q5moRyw/z9sXUsN2u59vAV1iZep/YJrPvcUk76bAmbC2rwl84h1th1CU9HzEHKJXwgJf2A" ++
  "lHRLlAJUcrpkSo4qfx3Ehir9Df/cmBAV8wM626ivoLbEHBRehBSOBM0wFPridTYeMnI55WCW4/bnog61LnpnCclnmuTDmh2TsdmDhO91nQOx0LfHtdVI8SUQX2zxpYWRQCeldlG40PyCT9ClITznikJTNma0uj1LVqvJzaeUOC4FpaIP6PiBsQfuK9FhXFX77dT4J7Tz" ++
  "2/Ew4qZtnp+qoNPICbqIN6Fuku8/K7uXa/R3aaP/+06ro1ClvxF9NDqm1AevTrX71OjvttdoCntYr7baoy0eAepJvNtmGobX2DQ3bmNjbNxNdeNsgo29Cc2HzYEubmeDsCH5HZZ0fz6l+LusgUlvMO5yDXyn1j3TdtIvlHn80gtZhVe/ev5Rp1NCf+Hvx3f64Rdbz+tn" ++
  "tA8l6DwVujUf41OmOqxaCOkdRZZtNUsmnRino+HiQaxpG/TJevSevEcQYRz6cspL8F1fxFAy6FBwOtz5gizIKcNxBg02JN5cvv0J2clW4UISghCfWj6SZDRZFtaVTToSuiRzYxLMQh949BfNRbRwFu7CXrQX0Ac6t5BVxMeRx8/muo37W71IlzeIspNK2YuY83dfBhU/" ++
  "zqDe72ZzLOOAbqfbDPa2kJ1fHnejrTQ5GOrJulvbax/U6fWTPHLrAqz9aRSUjYKyizkal267YA5gNcO4uXejJ6duLlQGsW/zZ3vnZ3fb5we7Pfu3ekK927N/fyfF7QEdiXA7Ot/e88lJ5n7Su/qJ7CXZ3U/Xmlml+JBTL94Xt//eZ9qG3qGtnfyxHaTv2y9BhhFlGHKG" ++
  "IWXIrHSMWNccsq45YqP7rGuOlK6psnSGStd8r3dvQ36bItGKamd0sAITWDqInogIJU5IeGzL34LwVZJXy9m8kN2SsO19QjY0tXglLbV2UUmFmZHNdTEmk36PMhc19lzC0xELHuRJr3fFwmc3BnQH4aFYUcQNpgtiQQYWGbi4WCBTQFYFF2RtkQb/xc4S6jim8WhL8uYY" ++
  "BpCMcvm/hGT0p9QgC/CZdcHcJiMnO2e2Y2cVzDdtsg3OBn9Rm2mNXZfK3xFTdIx7ssZp8A86xjTiOEOlEFOfHVX+OmKKLAHb+2yJKWo0CwkFREEaT2m4ml4y1ED0CpVcWEvMnZbxIn94yzgSC8b6qLYQ1oKxPqovRNwrkGKcaIWseI8VYcZame8pzacXSJ9a9KApeN/Q" ++
  "OCn3sh5Bxr/pRDIb+2Yj32Tcm4x6szFvZcR7olVu47TcbcTuJZ13eI3YnOxsKqmTs1tMPerrRJ5WjlpNbQGVvnbSDClpVVvoFiACqmZJ2qKREN9kmoevkJTKvygvpFwoXC6OFp73KhETevE2hSH+MJWkpN7bxMwpyHpN0k39tCsm/bOW9tqtnX/xjt4A3NbQuD/4Igwt" ++
  "p0rbLHpSpddWUDydrbatMB3CO7wZXK/Rap+jHifPGbLgVW4thA7APgcRyTCL7iggvhBDUowjuLbsYsF2oJ7J4ck1h0YsAA/Uezd99axImiec5jOFfW1Ow80ASnpn8uBwU6EbDklxpoaTJlVwOK0CQlexzLG+gkN9oE6bHjpb8sBHn17jC6mf0cgLQnj05KJ1Y6rVGVfa" ++
  "H2qyZUXxByEgqkSzGX+I4aBfJ45biZuWBFzrg09vuKu4pg5qClGLEYHJxK3nfiAGowctEUIyChlvTOsD9AjrTZtMY8d2ZLWyFZ839MbQTqAt9GOGb+jCL5QyN3nYAxqfvoNdQzNZSoUd5Y59vqnFQZC+YUJwPCOB5afhkRfpaf4b6H++F4YSDJYUT3f7lW2vwHP0Mya0" ++
  "2hiTYQWo2qhkU+A34FOB9Xr9Tf7wdG7W363FrlS2rlQPHJQiy6EllvuqMO4bwq3Qkk1MF+LQ9+5tmtmXIHHieycOzftQNAaVQXWY5ArNytyI3SNOgtmnvdQAaFoIABy+gLY8J0hVzBrJVFtc4kdtk58RJRpWRhpoFcKNFrA0pIUjVTrp0jB1hGGueTwwBs0ECRlYboXM" ++
  "v0VCJWxgzj2wUxztuWE5lTmF8mRVGEcLizCZo0ZDARXCN+mC3lhnQMzAHaq798Idaa6nqBGDp9WOkuf7atYn3FIaulbTeWNIIHzLHYA7EqhgTiiCVUyf7MrQHJVuLENw/aDeV7VLFRmapShuVPTlf3JteX3hr5Okn9RdbsYEGVMIiWNUGYHukHhDY9g4guoRVIb2SEWD" ++
  "0CPRGAYjURlYKbnQikHadINYE6Ial0R1GbujtLhqPLTjxiSJhhuQKhCpw8YIPRrS8SQBqSjkAJ1n0PmJG/jZemqIl1yM9RJUnmPjCfNCK9ARdvzUFM0nWzzHuaSVF+fJlU8ggwqD4ym0nogvnuJKwgOAhuZ1qHpH42NUsDp0RlkTjypDF3iKsIl+F3Nl6ZUZMrWXVtpQ" ++
  "rDlirrUaw2qSH94KADRGsTE0AedorDoAf0fHw6DSl0nPAnZDhibpfpsCTO8YVIZF8pj611At4IBFhc22nAcGWAkVGtjElyoTdY+16mmOzBqFLosnnAm35scB5M8QnWQAtAc30k14Uqw0mYX9SQfBuXKXkAXLtFt/5C/UybVyJLyxVMR70otYxio+WtpibecgWSvoAJUV" ++
  "WcUfloq9PK1tUntu+Ia1rKpur4IjMJ27DM110qwgCZBbBcobiGUcrBM3VN+ltXKyNl7G1YW000ou3VWOekq4pK5VgLzHGpZYBbrAMF4kDWNrnKjxV/Y6hWppl4XiKouUOuiEqmY6Gxh3AWZeEc2WlpHmt5fxkU7hkiqeiTuoUHwjMmEZKPUL8AQwNaXOHsXByjKWscNS" ++
  "ERqXoWtraGnSEPSIxDiTEpAGkAVaAjQwsyEBrz0BiQYK2xs5Eg66kzuqjJlgEx3uViY54G4FHe6IpqWYy4VQONxZJgAzKQOuzpi2YQ2PE4Ss43Eu/HgI0Y3epLoXdbMC8xC7pA1IfLlM2ojcPr2/YY/MfOXRwSfJKGMsiWZTqaRclibHpGivtXamgxk1BC3Ja/o3KmNm" ++
  "bGOLsVHdBf50K8SYvsVg3qFdEEKg1dkoJtNAmPINuRpqMLRzAjk0V5U50J2TeIJsMOZNjKdsEZWlQzysVlLCuOintu6ZSyih5hIiyq70rQHG+iokiTNWlLbghNgOHhIZ0RhaI0jA6jiwFNJUY4g9zQDsijVrxAZXOhtk01YYVgZOEkjkzVrZcjLRBHcyVEK0YZyEZOo3" ++
  "RVrlhbFMqHi0IB2DWguDxjLAyM3jPYc2xDJVOJaB5nzSEXR/wiwkqKQdEbOBTYET0F2CMxrqFg60giZSG3Mb0xZI1GXSi54aGFgkovQoj1rfkAF+UN+35kEMIQ2kMHuWS+qH6P6L2IyDORS2ebyoLIyFEzvpSACs5zcW8VeKSJM66NDQxu9140BHORk2R1usR70zZd5x" ++
  "DgKYqoJRh9p8WmJFS6eLFbhC0EyXwAPfjxJTH84pB8SF8cKALuGqvjXCKD/VOPOQn46dppXTEdGOe0LJ2vgoWd9TryWesQSiurroG5mWRdpTaMaVQTs+OjzHDG0IJCcJrPX2WPICcfUC0bq21+4a7Z8qWyvUYG2tDBGspLtqiE2wjo0HPbbExsoUG3ud4IjGXiW0Xzub" ++
  "BPhHO141rY27jo82ts5rWsnAweRbg7vW8cZeOXKTSPM1tM2VK1fotMnQ4mwKOqtOSez9d4TsJq48JjwdV9axs4pEY9M8XmsAIoGTaKCrOBm/XhLdOhk4Qe+1AVJMdb8bB5NMDD2kCE1ZxGWMoHR/FlUmkMg40BY5SdbMBuEYzIIYJ65oRSplnNzQz2P4glhrszUKL1IG" ++
  "oRSWgxHTqKyPNmklMCbaIvWhBav5+YGLIX8RWll8U1e/Gi9IVE9Iy047jh1XximHkUfTZqLVvSMwma0VXJbesywxfNNELTSVVNfpnFVh1Ow7oiAPlRaEPMTQ48pADkOQzE37jROT/qy6QBhXh0GDSZkK+CWIvbwRE504NDfFcccV2XBM0eOjnW4C/re4ofuuACoNqAfJ" ++
  "IahJwhOxHuOTGtP0ZhwMyURyZNl2PBoR6umcITYSJTk3xgN2yiI5PSvR5JIRwzVEZZqOX5vQfMxYFn1ynbRvmmPtyk1M/VomKZHvS2j+JcsXZ2y/IZ0e09Z4eHhIKr9i6wSr4JFmFI8QZi+pnlVIgphHImM2QSN7FSmJ4XnU6bNOM4pvJpguVTJZBz59rFqPRtx4RJUe" ++
  "E6nySJNR2g1z5WNo2eLoMa5MC3OnqvWpFPd9wSLX3xLHYlGdV2nAknMLTow32XDrW8PAakxSRcZeQbzdiGnaor6F+H4ghlW6MNgPIVKzxs0GYohMWhfG+AhVewH2xmw+0YGWpmVA8awu4sqyunSW9EiOohEIPk6GrPyAwmLfJaU0GJgip9DxlIOE4BJ9mMTdEqrtMtZj" ++
  "uhidjqqnI8xd5QgKtS7DlK8rq2ugpafMcBTU2MbFCDMjc1KZ2NBoLSPDAWqJk8cINENPX2L6BTUzIAVzo2c+MaNox/bSQQIaCl2rMQrymjErTNU4SCbIwSgSw1iLifTQIeBgil5VujFTrDE61lpAaDWOWfQPm5i0i6NURoSkbkKGYFB0RiAphsqLPqCDvBGGj7A5UnUw" ++
  "LUwjlcSpjjJquJZmdYtnvHquC1ciAEkCJey3AL9CbZErJUEXUCebmOBS52cV0FJqK0RgMMrJOdVEkRWsXm8j1KeBuvEcPVneIJudyn0j+vGABuVhXIrVDBqDmo7Ebx7SPEzoDMc8zj3xobIlflq7GhjDkmq/UabUYLa9tSj1m5py5Of/i9xgFjcyPVctbSViyuCzEUdz" ++
  "0Nxyh3HKUFon9wVN4pl0QW7WAfZIhpPtKTLmxS4UXeqF1O8wn05l23MVUyfo7UfEWAnfsrTBCBug87oYWleY0adzXJrO0hwVvZXmo5bu0WpuiRkzWA7tvIhTlWhpLIPYIMPBk1QpDM1MQDQBlSefo2swcuxcD6K4aQ1ujkaFeg/j/k0yw9FcllsYawyRT7JkU21vYfCt" ++
  "0vKMXhpDipsK+OUkLXhYJe4nEx4liX5sRbKfShl6JiAVvrS0lxbV6BuiUVydSoYKGgdGR4NUDwOHDOJqpiT16dHtZNwAXSgIgiwduPSERTR16yxJVMsKKtXomzHPb9K0yAtqH83VLMSYF9TiOZqErL4DAXsexfM4oGtmmQxtQFxXSppbchOCbGkqXVpAIXEfodDEUJxO" ++
  "e0ObHscDyx1doFUr2arrmiAfHpaS09Pahrgh6YXmsO8z6ETEDCygBTG/NUfpR1aln854HDkoxX86rByXy+/Z5IKlX3GmGwCC1mNpbRUOZZuGQsgmGAWQPTDysy0wClB2wMjFNsDIoZZmSXJp2zaWBsBBBIFDGAQHKRjsZCBZ1pjzxZwpVjlinTxWaWO+69sgIrBdHXap" ++
  "CqhAhqNCCZYKJHgqjGGqQAVXuRm2cibw4xR+nMGPM/hxCl+lpKv0GhN2vhTmVCqfSkP52MV4qTDGSwUqvJSb8VJOT7uy0uKstPi10uK0NFCV4KQ6l53ooaH5DaKH4aM3K/DkUNDJ9bwHOKcg2CoPp82noi5wePr3lUOVvBBlW5ia/MPxP5TEX6tMg0IseOpC0aMQbAHJ" ++
  "I5VFUagQG4dh/A9Hil7FbFzYX4/+evzXkrjXHK83RzTbq72WhPdVnO4AKkr3AuVhOkEJ1madXN3mHKQoA9dTAQlFp51gYNvAlBj12pAVWgKMX3nEkJVL7U1a/OQsdbXUlJ7uNNy41nVk6oAsfZGk+ZxbMVwsby3yXE3vEHKvtw38hB221MnsRyX9RaeYu+l2ImROsGLD" ++
  "XXDc64GglOLymBX+yKdBnvg+v+rxu4QqBilZUEylBEMxmZYS2wR2t+GRHDwrvy/Y7E5s+KSVzT/yu0oNmvHLaZi1iYbaaSTvpwjSlB10DYtdVMJ5Wd/6zg2GirF4/cTI7WD0MWpoL+uBPNDmeipmMGuX3ngexOkmkIYpaKMnp+4NG/lVXicbFKBJ4N8oARkbg7iRHwZp" ++
  "bb8kopIt69GCFG2oLGqBr0GL+cCFRpUVhkl6FzRdXV9obSomW6PpMokKXNiieVCulFfOOkNqGZvZQsuCxnqyOouZjLXwLaX5qPFLVrJMGIX9ASFTuqatk0xbk3ojZWsUBtQX03pJkHyxxSf7xZGfwpcwTmbWcU5pIMOfQWVBK7E8rYi3R9OPukYykKzJBYnkfHFlui9B" ++
  "OhgRYYsGW7Vf0GLAwpVaeZSV5wbV23IWN9YN7RG8MuzrVfxU92NG0XpIaBaX1kkv2VqyNHLLWxm79E2l1ukpREa+3VXCTG2qxvTCDfPTIihoRDeaP2/iIVq+fDSpHE5PJkflyUl5ejg5rUzOLpLZOeLhoWIn54jMBZ8fTi4q40PkOq6MK4fl6cWkUp6eTM8nR+eT05Pp" ++
  "6fjo+Gh6Bv/50fR4clEeHx8fTi9mqUq4oflhuilpx0df8p5N0kBVQWidTc7KAAQw08r0aHoyPjkpj0/L55PDs1lW+Q166CbdiOPPpknLjvSqUPAgAfTBeCD9fHJ0Ojk+T7IacXXTEITQk8rk5jArYMUMrDnH2sQK2Piscjw5vqDm5HJTfMaZtFjQkw60E70LlKcDfUcv" ++
  "w92IM9I+S+mCVaoHfIKy3Ae3ZUpo0hPWxC+b2F6b1rpJnW3NTXRSXlPPXeerso714mBMNpIFq6Q5pOlhZSXw6PSATEUNHyIwxakSejLZ45BjvWdXrcxd4VTmoQiGScsZaf+E1JCZ5p8yMNebPsmGQ2OQqsLZEmemtfah2qdLAeNEQg4T3A0RiCOWZqen58v4qM+kTFg9" ++
  "3dQYJjOZDDAXhNGgflH+peMH3gFGei955L7mlMuHs8rseHYyO52dzc5nF9PD8gxB99XZEQLPEFA5hDOf4qi8FXBMWY7ZezE94fxpCoo/zYKSLGe5VChLpTsvZlUpL1RgLmhyWM4nTNFGIvR0PoR9ROYXZaPjRzSSZs95lQQqfF+5P7o/vj+Zi/vTuZhX78/uz+8vZofl" ++
  "ex2FiJP70/sz/FJEJY1QwRx4xIFIUQw+LiNIR+BPl6IjT/YBOt0XCIlQ3cJUxUxqHExoz2tbmQ512VvBGfoTIwdTxSNHvuZ7sxWIQfWGs0AnXfN8ekQl0E/KCtu5MZfz+rwxx8Qso10BxulOmcWME7m3AnOxVQUqPW28XaIwWkf55ubgSR3Qk7oV6KpSqvYsEGhP6qOd" ++
  "YMKEi8yTSDFfiuYJ5+JGRYJJo1BPlQ6MmmCzp9jteqoGKNRzizLHhWrtZdOJuYMHyGTt5UxuBMIhQ27S3Gmuia35dwumw6RHFXfpfJh2qSIz7KVjpbyPtdIGV7hxQft6LdfZ3UF6bxdhIMVukqPhUY64hIeKKlB+SqQgSxDz4/nJQsxP52fz8/nFPeqbBlMgoigYGkic" ++
  "y5BLjgSH+CtEwE9ZCNJCTLwCYydyLyFmjs7MgDu1R9Pm2Surj448SiOTpkvA75UNKZsxCQ8nfordTssj9mqrOSZBykE77Xj4WifYJ8In4V5W3BoJUMLrY0Fu9DjazwfFmk8iXZmsoolw0DIs37O/i31uAEqATeKt3rpnaNsj4ItE5+Z8ZWij4ElL99QtgV5IvyWslFjj" ++
  "wF2htQ1pfjlvzu1d1DSRjnIypkhF3Y8n7R0aF8TT7hDP0qFSGP0n1ykpExZIRrRJZ88oMbnJDctge82axZ5SaIY9JDzdGe6E2OrxC9rn2ycktIjYE3jEgVCJjjGfSZcR1K24iekF1o3Hb1frEGWbiZRjuvbEp40fql4U0WFj9lCwdI0kEE7e5LJFp+RYhmHLSVU2MEsM" ++
  "ZYNucE7oyLF2/+nwmAx3CVdEyh7IlmL2imz7QT2RJF/TYtoFmKCcF48kaJmKKs/JPpKdbsFfVBc1HXW2L/35vsCLPWKcpDK4IJXY+EO8LuCE0dKNDH9CAATuGybyRMgFH+0PPt6H4k9U/t9cbQpE59IjEeqyNa6hgQ63UE4btLJ/JNzXzv+GCmqoP11FYJxVEplzEZBO"

/-- Part 8 of the compressed table. -/
def characterNamePart8 : String :=
  "+zP8dHdFWlU9xQP7WPCnawpYp3sQZdXgrLyrM+j6quBSIEpeUAoseIvdLKm8WrAttPPxvuqj8iUlEtLXhen23ELwbYRC2O+TaT/HAdsSRDf3vzObQ5vZV/Gfr9CfyAZQuVsVdEgwufBrilAeiJLbaMay5NQ9d9qoWpKekHGnPt1xhqPkW76QDkd8qtKFLaGShmYsXfpE" ++
  "04gOl3Gge5PG0moL7Z67lxYDU848uC9Vuh0mnSr7phHZwoaP73y5jZjjWjK+vnfDWMgZnPSEmHCmoYzdDn7dyLvypTttyhj/IxQ4dZv0HOk0jOMpV8u9kbEztYUvrmYyKjXjCLmEDyQFF458/tQXoSnktGFSCQFcvnA4xAHebqNBwch3E5PZHUCIS534quSmWdRXAcZH" ++
  "TEMrBPRGVYRiBlwvPcc1ZHw18zzHj6+mTVGnS21oByqtDayNnMdHWVT1JlXNtZoIAY4RSvCnNn9Dz71E9SPgIuM2UiG527FAh4hAiRTlZuxdoRIeY422AiXIcCI9ahVY08Bzpk0fKUJKRStdaAZKZwW6NnB7qChyRqgyCN6hi6seKEvwr6Z80QlJm+o3dpuu1wbSKJ+R" ++
  "Cq0pY0rX14Cf2yFm4WZEmRFlB0yUh9anGk+5EuKKwsS0hVAbzSjdGYIA4mpcLSUcp3hFMU6IDzVuFFP10ALU5EhPSUDVaRPxzrQjY8IR4YxrE0X7ktbUpx1RjzPy0xNGqsaaxyzef5Qg5cyIwcNoX2pw1egAYjE6bsiomMADSa7mRB8gxF2Iq3w1qxLxUDw3U8fSiBIH" ++
  "gic0SGZmoHoNPITLrBggUYtSguzE3CWn5fn3aGEAi6dtbuhQcItMI6IoWvuK2gAYr0r8nijQsDogYhgTAUAIa+ZxxVy6/SqJI3x6r05ljpjnAbVOeKAQsEed6Kgq7FBH5kYUy/gKBKPqNCjzLORmB8GpfM8Z1xLZwv16diOmxEVtuutIQJlPZgb3OjRhg5q+YQrVTBJ9" ++
  "E5DRiZhzrKCEHoG4K+qD7ow4AATl6lAjBKo2hkdEISqXaqJaFQ15EAUK95AbzKcSfBYZKK0DKLFH9VeCApnhDBWLMvwOEVMVPKOeTSRBIxh0n1WJDfcyRldgGdhB7lAJC5AfMBQPtTiTcEO0KPW0ElMSPZCExYwayiURRQVyNWYsOUAfMIgLt+7p1wzVmdYJR1AtmoV0" ++
  "RfZqWkWqKYtHn9FmGRbE1PckCT+HsOO6Q5J61LyeM7uUkumicFW9dVblFkavY0GJrjtDUvCYz4nQHrMQWek1PDQghJ3u+ACLdhSKN7gjdARLNZ+HCRK9NCigfjPFCUoeUKMoFqNvU3dbjBpWjfDqxG1ikktOQn2cOBwdFu0h6ehke1EXkdUgajSoda6mNuJ8y50Bv0hG" ++
  "Y4N6iAd+A/oYhdQIdUno2fQhyKiQSaxH7IsxhlqrzY1PLErDGKUDY/qK+yPiPW6OaaiF/iVVMlaUpL5EzATiYJSiFq1TUmosVEGQjLFmnFnJzw4VdKm6FeB7JB8YKAlY8AcECLiVBsRmB4gAWF2PRQaJzEbVq5NMV3wN3ndpxLLAPoSlH6MgJSJndQ+NSrIWHp+JPG22" ++
  "GdCWSFY056YICKuIuSQV+E5dVTrkkUINnpZPVaJQYv9MGpDQ4byNNkHvEE180AQOQlYQH6EY6i9TojWPWtf3TaULABemdZNkGZ0Xp77AA92lLsGnijtK0EH0QGLPuCfq0bgZTwPJe97oqXJGnASWCywL2ahODn1nrCk4MbGVdc9cSIR2KSCm/idpkMAozCPhlAQ1SV+M" ++
  "M1cM3YlrJjoXUsZa6oS0cT+l3lsnG1Ql7gSRx9yvVZFpy6OBmJQskigekZrHPBAGQwy1HItylvhoKJ/waoORQ0VOxQI8eAIw90Qa+PRIih7r69GUWu36HuMWdUJUnTQS3Z98GhJDZq2GGhcpjkh3nbQ2RAQ+tkWqAaHLVGeiGehmEUs31YKEDbWEQfX36pErw3DGApAE" ++
  "pJKBHWpWgu+yKkNylUYdDz7uMewNmQ/VcKkE2rStx0LwTkwil0cIwRIbhAiynnhFVYDsrBKRbiAPmiAJQmh0Ru+KuXv6PPDWbClaMgBOEXP0FUl0QaJDUqckJrJVpyRR26hqosQ+d3JVNiSfY1GFMEwKan9SJ2IeL5ykkWYoCwi0SaTfoBSf2YAIUSd0aHh34lSLRGAJ" ++
  "xG5Z1P5XXKDDchhoKa1VEU0JbNJaS770fJsz1oRtz4gHLskaA/jiaupNwepUK969D4RN5Lu/Us3kdEr0hoSWpx1VQ24XagL0FjIr6jiW21jUaP1lFl/ds25CrEOJL+miv++B/X3QqB1LVhG0zgbKoGWuZ0wpQvmezGR48ytCNZCONDpsVMPijtT00Bmh5AE3ND20B5Ji" ++
  "6slVbm4oEvUSOgKNSmRsgsZzJW+ogtSl75P+TFXkCjLvTkm6xDN07RmJXdW5Z0RA4HQPaUH1Jf3XZJMVrHWq2lHHpzpR56eBVNWHxh1qF5Jn9w2ukuqrdRokoQlZM10dMCLJB/DKzJuRtI1IXPpkvoImOC2wGGZk4rjcdYLUQFckPrgN60PH++BYzoeq+GCID+KDb1of" ++
  "mqawPpjCQ4j1oWbGH5pSCPnBsz9QRydrnB988cHzbj8E3ge06IfIlOID/rfx/dD0PtjCvftAQALEySaVfVr+m8zoxXvPle+jtveBNnbf06mlD1ZLvg+t6w8kz97zXPy9MnqBrPLPbNQ3Z5ynG0GpC1Nrnd5Nv9a/6l/3ROJoJQ6ZOKzEEaeJ2zeD2uBqgCArcen3Ohs9" ++
  "NqAUy+ueslkey5uJaCOlrA1uKGXfim+GteHV8LrnJACTh0/4yZOQHypp0wMm/NiJz6+Y0PslrnqzBN+IXjzpGfyeiWvyc2C9GsKQF2IH8ZRAvdVaRzqK5YdaiSq18h96sYmyGjQzD0G+ljDTN2Nd1xo2xTCUw7oYgqOGEKHDhjCHBhh6CGYyh5fe0Gzjty2GN96wUY2H" ++
  "hjesyWHcjoeRN6yKYSsedqTlDn2BRGSdTQy9kTeMh1KOhhaVXS+/z735CrTYXtXE9trK4VhGGnKQeijhQZLmfT22lSErAKyWy13gJtpmyaSpon76B8p8ddaaWNVpayJicsbklOy3yO959BVtjhMcQpEWOwU525yY/HeZIbeWiO9dNFB8bwuyJgEfOQJyNPG5oqAORVGw" ++
  "g78aJ+Kv6eLj2xyAdo3ncOD/NaUS8R2bYarRKTNgHHqzpgxRQmuGccqZmaQJi9i50w9T0LEIz6ETqNVSDbUdUcYaFEhnpCKpJnXyXkMM0Tz12mrNA4jFyGvN6yACp8Mg3xpBmF2WUIoKcoNYjKxqCePoCKiFDDkKvVYp8BpE8pM/+tYaslbvMgOq4SSxUTWJ6Ai6fmYo" ++
  "BBPYtuVl8aU0gNJVtQeiWDkI8OlRRhg7rqLSnjcybUu9mHwQRpiblch/075ESeJyZLpI5l5ZjdE1SDXCmHo5Eq1RdG0SNWopXaKQqAvSj2wvHDmaHpBuVBCoFXkN/sxqaCYyyud5l7Pout1aojnarZkfVyG0wGduQGdZPEb3zLir2cnBFTLkJy/v0UyNe9sKwRWX94T/" ++
  "5X3T88AB7ct7DNzhPQh0OQ9F9R6ypErvelcR6dy3xOV9HX8d/EVhGzFtBLYvUY4kkS8NieY2AmvncXhnFa5aq/YK85p4dbNq+it/Fa0aq/rKWjVXYnW5kqvqqraKV514Za+uVqa/cjur65Wx8uTKXQVkDNhadYoWfJ1FuGgt2guCurhZNP2Fv4gWjUV9YS2aC7G4XEha" ++
  "AF7Ei068sBdXC9NfuJ3F9cJYeHLhLgIy9WstOv9W+7xjaTMHQiOyW5Lt9EI1YhYlBxnrJb829qMM9sqEY8nBBwbhuE1f3tp6+JofCS4GjdUR6ELYLb8fcpuKrdtQmaYWVkvcymswgqOOzXom2qxeLv9iCS+zk0g2vqHaweHbyQMtiQ1yAkum9u/qbCDc4JT0rhbbuiZD" ++
  "1/qNF1oAcrN8Llu/7qkXXjqUoke2/m0yjk0fuDrsxLfJxsMBAI4rMn+dPDeTAmuwpfFrNirOj85gcLk1bm6yV2hCAnyj8CBPnz2BJPLQjRmKV68F3N6YbAwbeSiLzsEWzW/4NYEbGlvTsqmQmxuUEnb4nRph3ppk2TywQGULAPCJMBLKWzQ6Ufe4/mf9aFNq0DV5Rq4q" ++
  "gsRWOFsntm64WfQzBKFvqZc136dotzyrhnFsnMVt2UMfmmRFpTHwht6g7Q0HUvlkZ2ANxcgdN4beUA4tDJAuXeRUQRgtLfJ3htZAyJEcyCAYBB5EIYokt8x76bEEiYTxwIsH7hBgPGSNrYHXGCK21R5YjYEUAyCHOBqD6+f1P7ORyIDVLNoCVS5+tOo9P+SU0IHSHfCF" ++
  "9uHJ8HR4NjzPNRrFHS4ry+PlyfJ0eU6gZZlVszgqWVHyECkNa12XjvJuB9IJ8ZqJXhZK9XA2hd5uJWqSAaTU0HstsPxIG2KkAuvlbgsTFjKwG+b7XSCFwVeFeUwVL1CvOn86PKddCY0gOqWPGrjRQbl8OK6Mj8bH45Px6fhsfD6+GB2Wx7uBlX2BR/sCj/cFnuwLPN0X" ++
  "eLYv8Hxf4MWewOFheV/S/62rVPnPV6Wj/3xVOv7PV6WT/3xVOv3PV6Wz/6dVae+wVaPdphqZDj88x8T15fCl8nL0cvxy8nL6cvZy/nLxIl6qL7UX40W+1J8Pf5Sg8qMERz9KcPyjBCc/SnD6owRnP0pw/qMEFz9KIH6UoPqjBLUfJTB+lED+KEH9Bwmeav8vQ/xvyhB/" ++
  "OhTQQ38REZljTRclHQszLFdr0Ouj9fFaJTxZn63P7/UEI1Wjv1S+HH05/qKSGF/OvkCdhogoD5KJjuzSQYlGroAkpiN/gRYrrELcweGkMjmatL2RpZ3HozhxTU5GwEm5JqcjT4WPmoJMm0+PpsfTk+kpXQmbqhs006YcW9tx47gYMpZ5/9jTvqY1CnfgFqFtQ0J8DlYK" ++
  "SceOohTcNlI5QJFXxEfVZgtWgAnXnjrv1DWSCeQtoE0vD3FkvkbA1xDdxnG7rtPzkbMF8/U6a2COKEIZdfIQOl4uQzFd8DN0peaSrwBo5wrKg3gtA9rSPXDiA8ejaeQvr7B3O+42t7pWyvnWQs7bMXrK4Ul5p3+oobdt3Ut6pqh6eHq8AyifZOZSorOynqrmxmoKnaRd" ++
  "Z3I6OZucTy4mYlKd1CbGRE7q4/MfJbj4UQLxowTVHyWo/SiB8aME8kcJ6j9IAOXqRyAOf5Sg8qMERz9KcPyjBCc/SnD6owT/L0N8nyHQlehxESP2ba+DUVD3N3NwPfAH0aA+aA5sMlk0aA0ag2Dgl9yBUQoHdfw2S84APXMQmYPQpsudhjnA/2ZTey8Hpj2wzUFgDpyB" ++
  "O7gchAMH2Vxku8RfiARO8jJlhODUeZk6l2HJckPLkPwUDi97IV8aq94yB5QQ2UPkCxHLpXCIw2EOh16q+DTvyB1zeDQuBSMfn0FUCkdUnfbQHMIbltyRgzpSUIO/YalJ6YSuHgr2xHAgvHhgDeTAAma8A2kNYvilTiVRf4+eI4LbSsLkgHctrUFHDuKBjAfX7UEM0qi9" ++
  "zCxDPIgT2sYDzzOH7WE8aIuhN7Ro6REYqMfZ4pk3s2Zi4MvAtehVg7mTFOXOhDvz3PTtVoca/Kz8K5QX65pvIpdytzFCWRNu1KftvN1QXnvcE07bfekNjxyE7TDeRNwOFFEkaibZIWP/nDA6iLwDVZgOpIVAaE5Ly56r9ce5pX50BHuoYudlVYqoxZGcRMpgD7sbgWjR" ++
  "XqV6Dx5O8MBEPeI7oQezJm0KTLAjWBdlrhlnH+dAjTn/OAM1BqixAjUmUGMCNU5AjUUQeG0GWPtVmdtQTMiGC36NTKvWTEc5aUt6j+BX/UwUrYn+mjfXQWuwtPya7lB0medM6h202MuXy9VOO1+O8Yc1OtDpxrTCmgTR+wfILP1h7PPvnw5rdXoUjh8/czulbN+XF2Ub" ++
  "XiBuDK/kWjdND12oGXRuTOmUPJf5Z/5aeBRiEE99RSjFvIkvDKThytSLMd8r+V6rQ/fmk8BtP3xeDkQhD3AyvaZJp3+3s++J0pD2xHyHAsyn81cjUhoo7w4R8tlTb0YG5d+mgwrdCcgosSdbsVZFCPvi9hIjX6e0sjvl6OAwCoTreqV89Hwn2bNKlStvL1SdKqGfSj2/" ++
  "gfife+4cvRCRkdU0RUfMq15wQ7+xAe4VKNKgvggXaoFvM/ZdRC8gduC7kS3IkbDpVelpwZtQUgpCIWl86hxHZXo9jB+5hLxRvcKB0mm63qewJSPb+xQFUrnGHHsjDBncUAGGdGQYtbhjZaFeBNFmKuygwNIJvRclFjIByW85zjm2KR5BC5vwnntVm1D35qEXeDWzI0qu" ++
  "xzAjjyEaLU+S05JjJVypI6dQPUdGCsVaHLTIQCECVI0h0tpqJymtKZ0rr9GrWr/6kPquaGZ7cPwS2kHl6WhpWIF+Qr5uW/6SYS35BEKtflL+1ZWxI6lZ4yYZ8GuanT4dm27aVtQ3WqLUosMQthv3m3Ynrpn9G0H1kc0+yTcLzHYPrqCqeU4fAxzay0AtS670PaSAzkJU" ++
  "SRMrIm6Rpk8ldOIQTICybXxvhN8BFyNjw7PjKojULBHfdBaM4UK1bmfBbYpA3bqdfguYmxYg+xDfBGCukpKLk5AjSU5uVSvZErk8n9I8n5J0n3J5+lr8Z0im5iRzFQErVanGfXC9Y9leX3NKP2OpftiESO8QWdISF0kpi1yJS9V1+nlm1c2RgcjXJMn4VGyGJ47UHXFB" ++
  "nMhtm6/7lyTrl2LWLznwUIRuTCuy5LwUaip4ncWNABNFnlykQqLPv33wWr9uRaCEV+3YaFyFMHhCRB0xzcGYJ9IlCShZqcBJZLeVpp6pEoHQYw7GLKTjNZ6DjhY7qJgK7zhWHmjWBmBaz27GtnXjdDRGW7w7DKSd0WemBYsm4kyhRVSZAVAMiegZzG36d1YENtNkTNNt" ++
  "tuI13JIfR+zPN9Kjl5X2lEJ4pOS51nn00qh88KwBvZUDVReE2Mnz8DKXa38Ct5jqU+HV+jTZKkPxcylN3Hck9eGpDukkZGh5nY0OyhOCWoKpHgUdEXoNW4QEZZ3CW3M8Q/Yw1IhJyvHTXLeZslTzCj1itqeXPO8IKy48y/2U1eT5+2T8/CMyfnaLqf66n4xfMjL+Y65w" ++
  "pgdkSDOuW6GDymOwaXp9gwwbudJh+RlD1TbI0k21A1kdkZ05Jw7VmKXOy/ihZVsLQ4TSEgufrHX6GGZca+FdI6Qkm3WPXmRteu6jYflI2hLBVsSTimgKKMhhZC3CDmm3VtNaJIMHuTs+ONYKrfClpNMH0hGUXvgy9PIAF/K66I+gbAO9Jj0mBtBQCKiNAq/uhR81tLDj" ++
  "yha9X0hbRAvPthr0OCuvaQEAlJGCn2qNn5oSxy4qFWEkscJ8Gl1aGvAUZe5FKK4VJqiiVTMpJBItyIUSUDPkNbBlAlpZFkW4XACnDHIlrCMINVQTLI6fgOvjW+TJMkX0gDbC6Yo8lUxNv0Dj4WfZ4ag07TPUBVFSeMULrwM9wSrC4uJs6XjggI6HUcYSSxmGMgASdFxE" ++
  "05qbB03iSm9RjzCLycGwHEsFIbfnUGvlKIjsLeq4KgLshZpBZ1mG0EvIsUBoxNUECbm+WeZA+Fw35iFhyzzmD4qncljg17DchSvoOUtUm3ImwEvCtr0ceuQjLbXRoAJQQ3RjNzK1h5mAaqp5CM4ldwUKY9Bg2aanOp0O8FK/IpuXi1dV5twp/5IPU3/vKXGgd3A/zPia" ++
  "Yl4s9FLXQNWVn/oQZqhWUoryUn+xRT1I+dlaoKLwlqgqSX9l7BUvUY2SFlA1JQUe/AjsgKJHPNFpZMTXxEbKB90OlEli6sp3gtPmWTQ7NudKACX+lPScr0ki1afWDzXDIngV5JmA0/myQb1DMzeHXVtUpO4fGqqfMlPiSpDXCbT3KY9pkjQfppNrpNIkiZ9FCDzoNFSY" ++
  "KPg0MYqBWY8j3LmzRRa3JTrUl2vvAbLC9uhxglKT5ILvIU2oew1hJF0DrOACVKcuUW8oLA/ELFrUaEHB/MNCMNfzVO9NA17A88+ERSpziOYk+Fl48sPV1lKiU7BkhkoOxCEZLMehS/hAuWYizIufICe0GwIxUAsd7HuG4BBB5n+CZAhlljORwQnrg/TQXy0y+8GUs8hW" ++
  "tPgHJTsNS6V+Lu1PxrT4/wDMP6r0wERl4HZhqWRYypn8iobXIGWPydSwHimUrFO/WI+Qk5B8z6H1SECsjxz+yEk5YIFJWEQmV0nzA0eUSOKHL/Q2dDHEgDIrg2KCrTCUlKb/TCOcCD9KMpuSBP6dDb7PQBZ9vi0aVuKDqBJNi4xjgos4jIQLwlMpYu3G1YVL2FghotDc" ++
  "GgMHLaSdmDOyI6s0JEgnRYCqmwv4qBGKCnWgto5M3ec1l38hVvPIYqsrgmtL8bweTVpgDxpIiG82FIT22hpoEjrGXAL40EJ1XJJLvvhKYv/JFUnxuUjDegohwIgvVSA7cgma8uuN99W1mKP+nhgTwlA0NR+D+xN6/DWj0dKMCLUEsE6IPmuFS4X1VhTJkLqFCZhLfZUC" ++
  "MRfpQFY8knCFahXS06RWUmerhP6um4je8nQ86mhPRDi6HEpKBiQs47JIUoKtdDpw/HbQcwEO9fES9WMDsoCkzRNVjUxsONySrABkkeiLOkpeZ6HU43Sw14wyWAlC/3MLaUjdulTWkyqSejpJf0uVTWOg9RfZELb1wlLuhaQrBNIiRFdwmUIq4G/JDCaIE3+NAuX4O+oa" ++
  "7HoRASX5S5Lkb5MkX9MkC427KDUaq3rkNRqEbrxgqYXBMGiSEgs2fQabPzfEs2E9N+XzDQSytaUSYEavdQJ26VDizKfUtVRCn5x5kUp+6PqH0PW3NHw966iKgFa8kwWLxKsuZyU+vXhRKoZidkDL/olX7Z0kPt6XwIAuhXqdVu895EIGyml4UQhQtJ3QcL0h3Zvw+uzu" ++
  "1zyDFk4oGcqpW404kAeHj5XHo36dRqtIzNT+Ub8aII3Jy3r9mpBhHAiEiZocN2VEDwsf2GyLPhL1ej9qeznvgB9PzkXTpYV8vNUqRIfWdc47hkRVj+rKqOqJwFDZd0IbdDW1Pi15Eeu+wo7Ehi+G9Wsc06+/msAIYocjDw4XFWrLykXfoceFfdpfkAKVpTPYYZS0IVnK" ++
  "92d1W0R9+pRif0IbBn1MDeiyKPz37Od08E3Zl1hDjxJT/f6aQdCFCk/Zbh7EEf/2c0jOFJJXMS80ypDVC4SvVTgjqrBrm56tEWVr6+xKSmWPNuTO7vRdaOUtvEadpUheoFYhhHlyjYmfmO4c5EFel1wM4aYURl89c5X41M5PKRevnhdJ/aU2po/ykZZtm31SCrjrpLGx" ++
  "rxJ84gTPzPoc8EUFKNbnkN9UCG/g5JPE+mKACvyqSnI86sUFHDZFHA74ckKWJoP7TSUkPYkUT5Jrae1anpXl6aeZOceA9qUyyoBOfEejgMSTgl0lsaCblRKoZmVX0qzs0W3A7qxZ2Vts1jRF2qwc8nqzcnS21wVUnaUfyJrZkKHQAbRI6ni2d3D4XHk+IsGG+QNBSoKf" ++
  "Kk9HOSAiZpNzarcOwmmBXtA4OHyoPBw9HD+c9JVFqqoUTp/MULFDhUWW5CD61abs7DjgIHaoMN/EAKESameu7FoNRZMiX6M1+wWZYI68xG/Rc/EeKWAU+XSQJlPZMj/0qUD20YMl5rIIAIMuuY9nJRmeFS2g3i9owX8RQowEiypwWmgZAinQiKWaASQ+iHC3TjszmH/0" ++
  "w7gKFaV/08fsEaLakTc3Xp/eR0B90NtqNEnpGzJzN0gcc4uBGmQ73/WUA8w8iAO3n75nFZGPPip+Evt9L+CdzUhvqahB4PH48eTx9PHs8fzx4vGw/HQIBoz9CAOsAxnlStRHu/Xr5dqnrNLrwvMkQd+peu0F+iL9mEqtqi1Cly0o3dzwRkrflzRa0VAzRUoecpjxs/B+" ++
  "AxNcul5JlF8w5XkFT/GeKyybRjzHH9OiQ9/hNaM+7UYL7lNWiPHPsZRT9bilFgjA1BFT1VM5kQopJKrHoQ6YqACGDPSCuqxBdyBZOLWcgl+XqwVrVjj7dRlpXN6PDuaTEXUFjAYq/GE2YHP/kWmpf80K/GtaskGgYkp4cDhLE7wO5J8yIP/fQub/u/J/owsHnnUNNpNQ" ++
  "f+johRpYF2pgTSR6td+yggbvsGA0DCHgLKZ3TdDwpQIcQQ7o8rUY4q9PqymEVjgv1W15HedSJwFJWqJJ7AMtfumohD7CW/8ooGnJVorTTPOjb8manOl78OgYM5RjkeRpqR3KWSZbZ6lsneVlK0s45ty/xP4sJxWziN9ipQsoLSwEbfo8kYcmUYFWSF2hWeKzJZRRvynC" ++
  "KuLB4Vofpl2f0kHa9cX6sLw53FQ2R5vjzcnmdHO2Od9crCtp4Pokdb6x0PmguUg+Z7ID+WPl4/HHk49nH88/Hh5+qnw6+nT86ezT+aeLjxVynnw6hffi41EZcac65rjMCU+096T8SefsZp1YVSdRdUkrl45csFIOx9wndMjVLSZUSxpEEglFWdAxKn5rClF0J7YHLuxB" ++
  "beyTrtijsamPNuphqOrTVdYeE75Hd1h7EXn5MmxPXYbt68uwveQybF9dhu3pobCfXIbtJZdhe8llWOBzVC7/oidIdDykBDkdmV01teAAkwyeuHZHxdzGDh0ZIucH/iJCpZhQzKDLs/s0Mw0bASpEY75SgnqOhcGxBy0+sGTQa0rp88hKhzd7dBIlEIiIOj1BYj3qqacg" ++
  "qWl70LddtVXtxVHPkNRPQSUyGUMGIQ1aNQsoJdEuwFStJnsdJDVRPCXqWS5GC7ROD61EaDJUhNRMLlnUoh76A181rEKu9doCBbsNENbGHIBcwkAnA9gALQBAA2g9EQcw2Euvw4BobgXI6ISgDNlvMCBGZEgGHyCfgXkNczmFeK9K9ybRqz2bRU3PR8FUko2xHN6a7YUq" ++
  "IUJD0/J7DcxD6PGZRo/WM91GZPb8GFPuDlOZkwKcZXD1bdEm0jiYv9oU7Hsu8Gx4VMWIZnsyApo16Hjo8CEgeuC6Bs11GBDanWzAUR8DYnRoCPQie2B2D8M6sWQLU9+kAdq0RA286DYuUaXT05OHHi1TuoRizF+WrFZoMlyuoQEU0VC9BkSPQSdbwrCf1LNkuT1H8AMu" ++
  "PegfMTR+1XLSwdzMTuCQXhGhySK0JtIyES3XBY8ZEkpqpDQWzHsR0Vf2aXryGgN6yMDI+BLxF1RGsJxAM2F4ZkR6dLnUlsxYwJXqU8cIS7+iQae7FDacymJmoNmMKUvMhKhsvQ5RbjMH2KIKflA8xW/UuQ3qg6flLrcB1TbwoO+DTKX0ovocgmFBgmFOPXwBzpmjay+o" ++
  "W8+lPhxEJkOgjfzeTF3wCfV937RqJchR9GY++AEA9CYWv93FL1HR01PdYoIP9LwWsCfDyY7Qy8wk65ilE+sEYlld1pbGUi7ry8bSXFrLy2VzaS+dpbv0lv7yih5kXUbLeNlatpfXy87yZqROcr9if3vuzN25N/fnV/NgHs6jeTxvzdvz63lnfnNHRaImaeHr6rq2NtZy" ++
  "XV831ubaWl+um2t77azdtbf211frYB2uo3W8bq3b6+t1Z30z0YXn0aZKnpz+DOp3XPdtLJ6rz7Vn41k+158bz+az9Xz5jEncs/PsPnvP/vPVc/AcPkfP8XPruf18/dx5vlloLB6rj7VH41E+1h8bj+aj9Xj52Hy0H51H99F79B+vHoPH8DF6jB9bj+3H68fO481dcj0t" ++
  "KZyQv5BEBnKJypqrI06IFOy6SIjBPvl9glCaanVZ51+j2J4UVjv5HmG2cftfSph6IJr0dmta+qYKjE/KZxtjIzf1TYN9xuZy09zYG2fjbryNvyGqnByebsJNtIk3rU17c73pcJicalzYrIaxkqv6qrEyV9bqctVc2Stn5a68lb+6WgWrcBWtYjbPcb3qrG7u1CSIVnHi"

/-- Part 9 of the compressed table. -/
def characterNamePart9 : String :=
  "WjPD6CNjdFT9aHyUH+sfGaPj8kfr4+XH5kf7o8P+048e/4qP4cfoY/yx9bH98foj43RSWWmcfj9lVQvtECm7JvXSeDFfrJfLl+aL/eK8uC/ei/9y9RK8hC/RS/zSemm/XL90Xm6WGoWn6lPtyXiST/WnxpP5ZD1dPjWf7CfnyX3ynvynq6fgKXyKnuKn1lP76fqp8wTe" ++
  "FW6IuXpg1TMEfj+YuUbgofpQezAe5EP9ofFgPlgPlw/NB/vBeXAfvAf/4eoheAgfoof4ofXQfrh+6DzczIui63P1c+2z8Vl+rn9ufDY/W58vPzc/25+dz+5n77P/+epz8Dn8HH2OP7c+tz9ff+58vtnooj9WP9aSRvxoZg340f3offQ/Xn0Mio338Wa+LTR+q/5W+834" ++
  "Tf5W/63xm/mb9dvlb83f7N+c39zfvN/8365+C34Lf4t+i39r/db+7fq3zm83j7rw34/2fK/Y+lb9VvtmfJPf6t8a38xv1rfLb81v9jfnm/vN++Z/u/oWfAu/Rd/ib61v7W/X3zrfbj5pDL5Wv9a+Gl/l1/rXxlfzq/X18mvzq/3V+ep+9b76X6++Bl/Dr9HX+Gvra/vr" ++
  "9dfO15s7WqUPfZrBp+X//j5+r8vfVDe1pFdvzI213ac3QbE/b9KRQwEwvMgmpQbcjm51Ks7vioxh+ybkoYzEskEL8EtoV3BLdbpjeUMR9Ef7sWJpYWqybAooFUtbOIZYOvHSjZfX1tJzLMwp3aVvLQPTU8n1BGYZ0iL+MhLxMtZgMUYvof4u4UVO2aD7bph/J6Ml4TQn" ++
  "nOaM05xxmmuc5oTTnP64kDnhNGec5ozT3Innbjy/tuYap7lvsX0pNXdkZObqC5TmGqU5UJoDpTm8c4USaVoWcpDWQw8CkmekkdBVG+XrOWIkEg/gJU4UnoYmgTvDO9V5TXVec53XXOe1Lm5NdV7THxe4pjqvubg113ntxGs3Xl9ba13ntW+tUew6j9+aK71Gpde60msg" ++
  "uUal1/CuudITbodJrh3+/Xkj1w4/wxqTfe0wKbbDJF/PSb4dJlk7TLJ2mGTtsFdcUMWfqeLPXPFnrvizLvOZKk7bgc9c6jNV/JnLfOaKPzvxsxs/X1vPuuLPvvWMsp/zSD5zzZ9R82dd82dg+oyaP8P7zDVfcGMsco3xSDg9Mk6PjNOjxumRcHqkPy7kkXB6ZJweGadH" ++
  "J35048dr61Hj9Ohbj8DpMdcYj+oLlB41So9A6REoPcL7qFDa1xiLYmMs8vVc5BtjkTXGImuMRdYYuUFzV0p9psp/5sp/5sp/1uV+psp/pj8u+TNV/jOX+5kr/9mJP7vx52vrs678Z9/6jPI/5xH9zLX/jNp/1rX/DGw/o/af4f3Mtd9wg2xyDfKRcPrIOH1knD5qnD4S" ++
  "TnQq4SMX8pFw+sg4fWScPjrxRzf+eG191Dh99K2PwOljrkE+qi9Q+qhR+giUPgKlj/B+VCjta5BNsUE2+Xpu8g2yyRpkkzXIJm2Qzb6O8Y3q/I3r/I3r/E0X943q/I3+uMBvVOdvXNw3rvM3J/7mxt+urW+6zt986xuK/ZbH7xtX+hsq/U1X+huQ/IZKf4P3G1f6E7fD" ++
  "p1w7fCWcvjJOXxmnrxqnr4TTV/rjQr4STl8Zp6+M01cn/urGX6+trxqnr771FTh9zbXDV/UFSl81Sl+B0leg9BXerwqlfe3wqdgOn/L1/JRvh09ZO3zK2uHTlpRKWgETY6qoHi21D4P7WU2OMtt085+fbhdV+AzEM0A8A8QLgXgmEC8AAdF1/UIgnhnEM4PI9dws/wPy" ++
  "PyD/I+V/oPyPyP+A/I+U/4HzP1B+pbVlOT8i50fk/EQ5P1LOT8iJDnH9iXJ+5JwfueRM28qyb5B9g+wPlH1D2R+QfYPsD5R9w9k3vGpAK73tgBfHSnSx7IBOrNFNEHk91Hud7BnFvg71WmgD5aQVPB0/VPucyp3BKFXBCgVAKoRTRGbsVEtkMS3Ixc2UMxAWLSY1XbSJ" ++
  "jUlv7PvSWHOJxkvJ9tpFqByRL1i9E1VMpMN2UnG5H4slhh9VWWvauFGpdID6SQJjf61dNc/l962Mb7na/H2uhL9Xlfh7BeAT3QiUxj4M1W1BxDGmOQjqMVZOOsvK0G/dcrIEGabtXtgqZpcGdJ6Vt5VVszBJGLryJ9Efc9GaEqFPZt2SdJYhd2iWi/uXlEw7hMxDyAIL" ++
  "0Ote0BaBoZFQ9PzKlTT+lq6Fko+AzhIs2e72/orOiiRP0Mph8X9mof+dWTNPwpIqT8OOfQ2uEPc6j+wSRvNDPmQLJV15zUbFwCJqOsVe1HRcitpWTkXMNOs/KTwLELirG7R0n0H5W8vNPC8JlJ3660K2qPC3GcS/FtHJFZVg9N905/j6E4RX4Ee0pUVSUO+qhi959v2Y" ++
  "67ehb1sQV7TWnk+fIaz6zf44JdmUTHwtN2NCe3ZJnOLumSmlvTdiT5gCzvz4WrZckn2x38/7arYCww3BR/uy/6Xk+dJNyLAHCkfzILIn9lUK6ab8x1z3+CfXU77pNO3ovrCdUl2Q+c+QazjL0qsa5/yZJFsnvYgZoJRnKJZGavPrJRf09yofUkc0yoBjpnnQCWqzIs3Y" ++
  "mmYtDqBUxnLKJCRyTCb8kwMwzTk5Kq1r6sjl0OCnBd9YlcKQFyPukEz2n8KTW49yrrbEzEytq9xv4XufcxbwvU8dWYpS5MVq948JvUkaT3da2kpR6sSeUYoj9w1rHJFTSHahvZpeN+L+wrid/5J14VeK2BYRCibvqj8jge/nBp6/VZdxX+iwPokHJSw3kGR5jUhDiP2k" ++
  "ulkA957Mq2qX+fMIFJWaDVVmw+TnB9xR2gOrA3lC5DUEHZLrEMWk+YgCGvkulHdDkv/rLuitKua1y0LQbhF7Wi3pk3uYREftaUMVc/8at7zKIjwYfa/IQgLOHyQniDQeqb+0PZAlCqtCKEtXGCJVJi4mBz/2V8WmXxVx5EQ6iNkpH5ArbwdxVfZzxu8vW3rzihFaaWah" ++
  "WnC+HbUzD75AuFzESIvK3ZiS5yrge2Li6C+W+xfuRSxid8vLM8BuxfeDLCjjuebLTypSfSepURaQj9/qlAXNd5hr+DzRCm2u0Nronz2UzEumLVLuRoGWY39PeKGCe+i0D1IcQS/729fRYHE6IgVrT1zKU/+8S4q96ai8f7Hcfx7l2lMpCnlOyxM3lzAXvDexdhqWaJCR" ++
  "hL9PS/17qsNv2fzrtyokeSkXyKW86CFTw02E/z9Suheq2UuiCHxuZX2Z0WEFtKizB9tpdlDOp2He/6jG/KwHcNxTXj8rSGYEf+RDIi8vapAvdIdUfH+03Jfc/H1VIrVqzQRLSPWckuo5r12t903HPuXa91OukddqFCRT/loTXPM0Nx+gk7Bt/0S1z2veKgeHbAkpqIyE" ++
  "9i0Phfp+wyg5KT/SeN42AhH6r8bSwf2m1NHjJHqcRFeDOHwddBBXddwgiRukgOOgTgs6avErnOjwu6tYyhupHnPUmfVWhfaomASejku8U4n8vC53W7fZDFEOzigPZ1SEMyrCGWdwQo2RgpdYeQeMWweUp7M8B4rPwII8cDHgjwzvIUzhrJSNosyfJM9BVFn/yllXWolU" ++
  "vTSsWWHoBeG0jSjfFm7CCyV9Emxatz0v2BuTZdFXXNJFEC7or440rNj5K5f938LoSzvg6Z8trx+TCxQ6Qy7qSw7tfyrlsvAY/ajPSaclJaT6GQhVPiBOqH1SqH1i1B5rXuAmdhO/qJgvHPMl0Kcpn0yJJuIEn1WCzypr1btWwR9VsBIBjzdW40Y09kB89KVohnsg3UZk" ++
  "Hss+yGialH2wTeZ/VMT7x1w1v+QaSSX6J5Xon3KJNqEp6DTYRgROiR93SFj2LyrxXxRxM/ZLJFJJtEVnTz3/EtJj8yScwj11/TvEJjIrA/B3KsnfcZJ/BFcUAPyDiv0Hjv2XsMB9e5nsH1WGf+QM/xpGv2Xt/bTFZLmo33Jk+eccizwxkz29xmSvQEjj/yUHiZjtKc9Z" ++
  "vylMf2NMn4mhnlLuKfDjU557CrmectxTIHXCPTlqpeyzQ8F/VnT551wNftvmsT3s86DZJ2OPLJMaPZPz0ozf3yv8/p7x++cw+kznqg+0ZsMp/kml+CdO8X8gBQ9FBwmUfNL/oZI+Ysj09/VgVHFf+KfkFAPV5ZFMzWlME87YQeNr0vQ7MY+JhiDdlDE+GXqCwsm/qeS3" ++
  "r3ZcLfUe0wc99pFSU1kXZ2I0V/fbIHNLlErRYE8402BPOFd7N/x1NPcB0QTbE5PvB3tKeZVZkrQ0l46KlVJBhfqooEJVOOgnaqGyblVABe7DXYHdgzYXnkpEui+smv2fVbP/s3olOtfbtuopLTs94P1/qO5crHU+gebQf1W6hPaoGMWhOkZ5noq0KgBS1PjXvLryr68W" ++
  "8VSkcB6QSnf7uljZzva0TXIdvJfoKi4j+6tk5AiF0X/bQ8RctK7Sv+Tr9y/57q2J9z9ep2Qemqrkv+Tp+C+vllOkYw7Mv/w0FTlmm4YqcG+Xo5jv0G/v8PxFXeeQxlMmWJ8yWapqEbqiKb+wwvIj5DW6T3t12XxqJePYdoltSzunSZJukpf8GvJXhXniyxM+iVK+fAfM" ++
  "wUrI1GaQOcD/vQD4v+eb97/nS/nvhVL+e76xc9ir8V+XqaRgYczNY1dIW8SPs/yPHeiJ+s1ZQp3sH3Yhb6XbA/v/pzLdGh1XOFatxHZX+dqpml1w9SZ1EUaT0Pba9EJhKCdkiOtaGpPQotkMSvLi8Ck/zaDn5oJOiVdm+f4ymZI1Ysx1CPYAs1RnuG/IS4bTyLKjZZ5P" ++
  "dMRya/BYbrP3Qlf2tq628hMji8mVmZLrhTJZhS9RMcD2b2n/IOC50r8kYbeyI6ugRZgpf7H/4MoYPvuBkt4agRROp5Qm1JEMZ80TLx1C+7iJM0kU+7fAQt3w1WHTdDqF+Ttm1wbhEKp1Bj1FNIbqcki/VIWYbOpGnCVzyj7amC6tcZY2zerUIgWFqYwc6uZV1X6pDUh9" ++
  "upmJwmJ/RpjP6nYcqdsY/Ya4kXva6Itm+rz+O9nTZL/pdH/Jp9tqRmOy3Y5GPgm1KDUJvf8JrdeP63VpjDXVxmFca4JWzJklnYTsGS/UisgCbHsrRRDectPrXENN66GmdTiyGqBkeCusALTlu020SjMg6GqLZUDBWmQkki/k+O3AW20bwXJBeUz0r+nnlu/z6GZI0Fho" ++
  "TlxodEahY9nyvpRwwJzabwT50Xa3A3l7SDH7vYZyn6S4p6XoVZph3RHIT12BV6Ke0ohnihg1MfGflbZhjJig90n4XJPZtny0QCDVHrvXkNTF+yVlBZXXiWhfPBjwVwVwXFJ9ngeFo4TsmoNXWgypW890a1hRnTas6yIY29pPpY/B6ulGJQXc5/bBeCmDixrnPSUtscbE" ++
  "9WFJNATdlVTcMla7koVCl/nMdxKVHKYdZuS5+nb2Kg2bEh6LLEnViiTjtk9/vBTtvJCG99bFJPDWBO/Rg5nISzluQ9OLbVqZMy06voHheZGIsfA2P0/IJaPibgsD7HZkGqIFHY1ODoYEjEEgfxB6e/o6OWRUM9fa/C1NaUe5UqK2xRfdblWrVz2jUwRPpdNKZhSCgfjk" ++
  "Aqkb3FuGNl/ZOzicV+ZH8+P5yfx0fnarRq5b26vtKPV0SKuwGkABk5LJp7GmkG+ROTWkj68WrrXmlCs2paL1hbBw99VSifHPsz33Vn1zZhz+dGiIi+otPcuYmvI9qCyP1NOQFCsOU2Uol0KZL3g4fTh7OH+4eDgsP+Yu0SMb2Q+nm3vJO1raCnld0gaVxZfQlB3KiN4C" ++
  "Hqf2bPWlocabwjsfybk+usaPRI03BaBp5ub+XLYqqSrtqJjRljcaC7BA4NGSBm+qjXU5nSxjhiFqkMQHKp4tv9uywW8SFCFNVArepdiNfZNWIAmt8TLpHpSKiMvQLFjxrIrgC8On/YIEu0iblUdQUlBqFKFhk9EVxR5ZsjvdF8iucBba29cEWwhpEtet0GQCGkTZQjv7" ++
  "AuyA/BydaxFGuxBJLLKbpUjyQlRQLHwXYkT0eh2blAsKobtV2GISS9tbZRsSe1p37O3nrR1kthLU9oaGWYP86VCStdXcNXUbE3YyoFhL39m5idfVuNlZQ6TJtY6H4gZtbg3FK4rXN6bVkvSwLmCdb6RjX4q1dWPKDZlDpeOb5F4blzJoWeumaHpr+zI2rEu5djohypJr" ++
  "l8wZrz03Xvte07u01gFkj7WGLt3y1lErsAxvHTfjdZ0uEa8xlMZU2GF1HZp0TSOkixWBBeiYKQGpIH60NpAYlKhytInXisE6ccghp+uOx7c6iH3TqHXVavBvEpP4yfwz8pGlKrdjYXJHM7FY1EwMweq5+eSxL/EQheIBKsoD/ptwiYdrfJvioSYwR3hA5A38NfFI6RBs" ++
  "wNcRj4F4aFE+JKa/unhAyJV46CAQPz7AkBO/hk2/NkE3Hxz8kruB9MggHsWD9RA/eI/eg3yUD21C+qh8z2+LVdfO+nLdWofrxtq457ci6J49xqGQDCOSXvCUDCNPgsxo2E+6i1cDkGN93S5dt+cd2xYkJdRoJF16f1ceHpfv/8hxYM4q722vocwIuPR4eXKYr0Y0r1yU" ++
  "u5EXbb2Drd64Vi9SO/y2dYOfhq7R09L8APQlv0Ud0MPWt5bWMzsl69aKM098G9/K1CtvpZd5vFvvVmSRcAr1ADQZU+Mr8Ix9pVbutsm2QIqgEP1eVfRqomeIXoPe0+75pujZoufCJXqR6MNbp9eryXEpejei1xa9lug1Rc/ribgXCEjJXpMf0e7JntWjh7bjnm3DS5bH" ++
  "Ee/RjXYoqX2+qt7osc0ACunRU9sx3B3LfMv2sqLY77vWbdOz8PM2a6U7j25+t70etdIdtVIPrXSHVupRK91xK93pVqrU62+hyamX6uE/k+UulD3L8+nmW8ITptkR03hqTYWYSjmbepzyfNSIA9Gg6LYY4WNRJEcZSZTTtlaSCjqrlxdX7Fkvqvy7aGpvQ//WVbCfZKHH" ++
  "nB2ymFBqWpAtsZUh5JTLhwhdVkpNsTwqNePF6UmpicwX9LM4Oy01PW9xfI6f+eHZBRKIebl8DOm4PIGqtzwtteP5YQU/yHN4jp8lIj1vXj5GPPJcwBtbi+MjRFnz8ulhqd2C9wI/Yn54RL8SEM/oGcDlOeSDu7woObG7OMGPdBfID/kxPzzBbyzcxTnFSndePixD+iwP" ++
  "MRgD+SqQOEGABKyLM/zOD8tH0B69xdE5fpD6qGQBMwGskfT0qAR0y+WSpOpSBc9KSHpWkgQRiJzgQyRAgWfnJS7uAi27qJRLoUCSkIBUSiFV+hQ/iyN8qdYgUUi1htcCpSon0N1BJFssz0p2vDg/Ri8AWY/ws0CVoHsCcfi8BeqjNRsUdoohCzkMAZIYMVXaQNUOz8tQ" ++
  "QTyUb6CoSgWaMdosEqhYFC8uDksRYJ+c4AfVRxghdHqB30XlvHRpgbCXYnFULl0Stc5Kl4T9EX4WpwjjxPBRO58oVOAuHx2WOsQeHWKPDjKWL0odIjNw6aCcY8SDgBX6Qepj6AWgXp04ox4T8epSUgCSHh1BniLROQKJRmdIIRbgv7oAgUF9l1nAZRZwYzT6IcLAA6gD" ++
  "GcwFM5pgIZRognXO4YvhK9O5gQUIbsrFcYVGbyCFQCroiOIs8Oc5hSM1SA0xDlTKdLcCKc7IONniBPnQyIcXiAazlY8JNtr+olxyGw3mXvyKxXmFfkGEwxNyoFykJMfihH+JEJzFI/alLGJROeM8YAZgzGSlDKBj5kO286PMR02IQg8PSyjy9LzUiAkRKu30FB5JnNHg" ++
  "vnBcoveXUC0qg3rJGTliqhny+dbi4gLjwQI9wwcTHWIoA6b0g+IrJZ+b/BS/oNhJCeoNvBX8groV+iXyomNWmfXOlaN8RjEI4F8w4zH9LM4pXQzpcajqgSSL8kniph5WST2LI0gbH4Vd0K9YnB3jJ14c0w8VVT4nx+KQYpHzhLwg7HGpQRiC0g3CEDKpQRiizRqMIWQI" ++
  "HEAQdCPEyvQDPA9LAVoBLWhQD3ANkgGuwf0FIhHlUCDynYJ2BlcIP+ggaGt0lwv6iUlgudRfwODuJbVXpdQiRm8JImgrpi7d4m6BMOoWx6UWy4Mz/EJWIFvHopY6pyGcWgp80gGPly8ohJicAsiykzyvnfVSWyMTDEBTGoAmNABNMQBNMABNaQCa8AA0YctFmXbqxqB9" ++
  "QKLADZ/d8FEb3wsfI0zXya5Z+MQHhbXnMTXOl4Y4mCLSygBQucDIIaBQOdnsTg/itlWfYrZqW1NbCGfqWJYzrYophn5U1OqYcurLaRU/AUa6aV1gzPOmhimmFNUW7Sk6+LQp6lMeEC8pe820pkhwJRDaEFOXHnuIpy6CWmKKwX6K5p3eCHsKdphCiy3OiQijMWM0JozG" ++
  "hNG4KsYZRmNfjoHROBBjOa6LsTX2xsBoTFHAaAyMxsBo3BHjeEwYjYHRGAkIo3FDjIERJkZjYDRuiTEwGgOjMTAaA6MxYURI5BS/Ny2vLe18QEM6erWCbb28MYVzI96QVR8Pci9Kp/xJQj5atx3nxs1IvFUP42awqLlOym8y/eUW7HML9rkj9rkl9rmzaNnGur4j9rll" ++
  "9rnV+svFiXxj6cmIvK6hyTPIvatYhvlyameHXTYZilGuI64SnkN5Y5Q3ofLGVN4E5aEBrmkR3x1zeWMqD7Myd8LGICdsQ3JMtgc7E6sOJ5uQ5AzwcJYO58FPzpYklZO4ubw0gg+XJTF0bSGJAOA0nMCnEVI9rKd9VFbqYfVQdwwuMvGoMtMoLjSNs1q5KCo2jeFy0yip" ++
  "b3dpL5eclZZLqWiVK5yIli8972UyFsrPRyrCbuHQKSKR99uiad4L95Z+uflvdWM3ReAFc+GO/UDWrWs6+unKNWi0IdKsiSIbEGKN8jdU6JpLWhP8W8zIapLMgcngtk6vxxJvEa31QY0F7TNM1TFCHRTeBjFGhwIK6aGHUjKfytHsNotNcQfrGuXDrhdF9MTjDvNOAWJG" ++
  "hU4J+xmwhzy7nhH2U7UmSNhP0TIzbpAZt8OUyT8jqk+Z2DNFY5WlM1UUneaYd5pj3lmeead55p3lmHeaY95ZnnmnBead5pl3mmfeaZ55ZwXmnRaYd5Zn3mmeeWcF5p0WmXdaYN5pnnlnReadFZl3WmTeWYF5p0XmnW0x73SLeadbzItJIib9EeZ8GS8kw2PbeyIqPFLl" ++
  "n1DnRxT1RPAfGegjgXpENR7zTfKYa4bHPEXzQ2qvwNHEySuqhgnmkzScBqJKD4HmrXoJW9YnVWlOoGI4E4MewETakwlGpcmNsNyJKcxJhL8O0mCImkA8TxxK63qeO8E0xJ1QsjqiQ2FMrpAkILdJMZGkBWxkZChACCUYgGtOGiblSiyyAIE1wVsDzBogCInK4SQZFSia" ++
  "8OPg4zUgsutsI5TjYg3s1sCOTICsCTsFjbBboxwGC+wS0EfHa8ZvDfw2JmU1FaSjizUQZFd1zSiS+7gCCli07JEgcXy20jmOL1Ydhc5xdYXS2WWsqPgVFb/SME4OV0BgpRE4OV4xAuw+WyXFn1ysdPEn1VVa/ImxSuhEYDmo/lFDOj2cZGu5oNNDguLp8YOm0+nZozAf" ++
  "0IYPwPShqfPVHohODwTxgRB9QGkPoNMD0HzQwM+OHxjNB9Dp0aTMGtGziwcg+oCGfGA0H3INyfHyS125zssTOoIB5IjTVohfEYaop70CxBX4bEV8RvRcAceEmudMzRXhWCTmCoATUq4CchOGK2BIfMGkXBGnESUB2czoKA4nxdv9QOaFkHnRbC9OXoDOC6HzAjAvQOdF" ++
  "oyOqL0DnhdB5IXReCJ0XSgh0XoDOC9B5CchN6LwAnY9A56XJcIAOyjAA2XxJ0amXJ6BLQG8sksVG/SAy0uvtEkGbg/YmDWAk62U2y2de0oQmAk+WpAhp/d817kLeJGRnWyaBLj2doZykahsBnfi6IyumbuJhm7+JhwSHV8+eVg9pGaoYwotSW4lYVBVTkTQvJiIRVkzD" ++
  "cr2YSAn3YhhL+GKQxrMqaIqXIqm9KYZJdIJeEq9xS6I1YklsglUSnaKUBCT4JP6EaOqISkox5c3IpaNTWun4hFA6OqGSjk1JpKMz+uiAlDja79uxc+cFmEAYdwrBu5oZdDA+kNhHXOizqcrYcWRwJ+IodsADFpkKvbv0mviSlVRitaNy1/AwF/AUp+Xef6YUs4NyGf9X" ++
  "h6vK6mh1vDpZnc4PtwMq2wFH2wHH2wEn2wGnWwG36ZOmhMZEobE4XFQWR4vjxcnidHa4HVDZDjjaDjjeDjjZDjjdCiAKiXIXCmWHD/3RWRxC6I4O7ZDVcF8YGTMoX8oLOjJhBR2rOUFHakbQcQkf6MiUDbQ/4YKk1ELiS6CV8zbdrcx0LiefXp0gSLxU0ephUi2T7AOn" ++
  "1VK+tFo6MqmWjtXV0pG6WjouqZaOTKul/Um1klILiZNqaW9WLR2QVitJoKulvSQPmeGpgrW0goYlHM810iom/rSSaYKkmmkKXdE0ga5qGp9UNk2QVjcNSSqcYbGVJal0GpBVOw1KK54l0lVPA9jEe1Z9I61+zY6rmQgjTybAOCoVXxyXCC+OSkQXx6SCi6MyscXeVGip" ++
  "0vIpkwoqX1Y75U+rpqN1vZRPjWRKiNU9z74jS+L+weG4Mj4aH49Pxqfjs/H5+GJ8WJ4cTiqTo8nx5GRyOjmbnE8uxhUEgha0k5itZGQPrn/gwxZvSNYrF9GIXW+ZQCqQqaNCiTQqkOiiwpgoKlBRRLmZHOz8L26jKqLU9MZeW0LvXNlQ1t6/m6ybxHI91BY2nZB7R889" ++
  "1Wyv1mxboVSnJd8Znm2LgLeQVFL1ZrylZBrn62anSW4AVR362F6c+/0mMrtk3tsjTKA6gdb0/k5TRq+VEKbV0ga59qaqfQre1Yx37ZtfPL/DD6uoC3RdZc//Nex/v4XJd2brndN6Fxq/hu98v/WuXevutM7+sr5Uv9S+GF+gKX9pfDG/WF8uvzS/2F+cL+4X74v/5epL" ++
  "8CX8En2Jv7S+tL9cf+l8uenqi4tOjdvpnaF+VKulZKnVfn2tBd+ZbOddvYiU4fl9mvwBPLVVltLPleDvYmLVhr4YhmIoqkNQVD/CYFy+QfXsX9Gz39XR5d5ZBrpC+9fGO6/5LvTCd7E+4rK9iviuFb5TSzrGO/1mTFgjFfgd9eHmO+60zXeqR8JLqPh00ovm0e9C7rSZ" ++
  "X78lQ1lVIFzv1HKB/2730RkE7jkfZbwza78awa/WQSDDdzboRfOndyHYKTaNdy3PgJofNkttL2hq3iXZJE+7AZuQV3a31BPtydNcSYv9fivBCYVNC7MA4Qroek0BYtPraE3yN72mh/YACpXD8rvaZZOMmdctaqrE1PjBaeW4+nBSPTl7PKrV3qVZDflK+mN5Xns4uTgU" ++
  "D+cX8giuysXDsRTHD6enlfLD2WHl8OH05OLi4aRybDzWz2uPh+cGQqplhBwaD2fGceXx5LD+cF4TSHReLz8eH108nNYPjx8rFyePRycnAFcuP188XJSPxcOJIU8RUDEeTo7qRw+nR+Wzh3PjrPxwWjk5eji7OD98FGdIdlw+fzjFvPXxrHzxfP5wdnIE3CpnKKt6+nBx" ++
  "eGwQEY7Lr4utV6hzVqn9Ffhc/NN57a8n1fOLv56Vqxd/pcL/enZqnP31pGIYfz09OTkj+CflTMwlIEr8TEEkGnJcq0k/onSn5S4/5URjgGICOjdSj8d2PKZDkuNrC7+xcBtw1ISFPEd0oqgD+e/Kbt1rNDpdfZw3dqoBaiK6asjVZ55EEHbD2KUXMbRtMTJpT0dP3wLF" ++
  "qBOiN2MQiUpGHDYpZSi1EbJqbPGrCyHJLbfqtbvVwDIanJiL6LYF8Svdy+i2PLsmXK/rWHazg6BOl9+hoPNrVUxy4wBz5QNRD8DxtwITF/ySviEOyNJ/gIFAdFVSRpsSQNVxQ4iWdonfw9Lyvy2uWVtX7wtFhbi6FWDanNzY25OrYVWr9P5lIVPMByrzad3X0tLjva/A"

/-- Part 10 of the compressed table. -/
def characterNamePart10 : String :=
  "d1/FqhCY1UedhIPStg/tLHK3yFzGFPUsDA2Y8zX0IXJigy74yYtSHx2ZdjyH3oDoKmXSQBtBBHWVFgZAehzSZzRtLzbeV6Vp0elF8sz08TcwR5cDMv+H0PXaH/gtCiLMh4gecjI84tcurWWkp9sZS9Oj5wAb3UjUvG41DuhN1C7ffHPjqBtKadDJ+y6d61QLHxG+XXqv" ++
  "w4ipidjL1qLYVRP0ag9D9SWdBe5GsW35BDEIOlR0GHoO+l2Ioq2qFdZi7iJ1PiPeTeLBv6SZOgLa0lvwKxLLoNrlscaWgi8zACOIeZ+PbIl6t073h1zl5iTZDQZIe17FoecYzcADfNpIQD1FXEW1yHwjCQkZdh2Jrq26lnLSgXmCAWaQUP67VUEPnHbpLLYgW0RdGquU" ++
  "S5FHuX1U4L/WTFVtC4Cpn7WrRIOuKRzQGVC7IVQwqR4lurkRKFzQIFmqknTxvdiOQDFbNrpEAPA3ycjgz1XUs1tT1tko4peYCMsHK4lOYSSFw+aWvLb9iy8aJgY2q0vnvYwuBn63BvZklAIP7E2yry0hdXw6Guh1DdTX63qGdNEqoWl1KS3SmIHl+L9YoQkFpKkFRdi2" ++
  "AhtDFGtQoQc9UeEJBH4xRYtVEdlNw7qGFzdM4irC3pK/mF6Nnpvig7m/oAKdrg1F2vI9sEtM/cQAH7myQ7h1+aVLKrtLljA8VO8aNOLJDWYrhoIJRq3TmE/UwOSnLrugRk1rNnSVgCxzonlCqkPVYxso6kCwT11D0hnREEoy1HtatNbeKKDTYHSvh+4soHySBnGjS3dS" ++
  "msqylQoJwR7Vjga8hYk+O0v17eqSVYjn+8rsVdBEhXy6H4EGh/wDH4IpafWXblug0t2qBaluiA63QZfmegfegS1o9QlSwKRbZNB7VEes81sxpTT0FyuQpA+F72hlImja1Nvo/XWUQzZnO4wJAqHh1YllSsxo4H9RpTdRVe/Wuik9zxdyJ0DzA2PWFoGQL1xgWqL5EKhI" ++
  "L13S+joNOUry0NPHsstSs2XJtrrvSW8Cup1uWIOIxGyRXquRdlddF2MtFINkl5cd9OKu5Zf0czI0OQE1Y0xsFSewFAlpIISSjG7h0Ptw6KOOxRZONF2TF6iassMvhSq4RE/qqLFheSU24usT+3XpYSngZUOXYOqAHZDV9apobqob+j8/t8d3qjRkeg4sfGvI/REYdci6" ++
  "XoDMYVcYDj0yyM99khLEhINklXTCOoCYrJMIoTfpJMiCsm22u0F9N+jSaW6+PulpTqaAbob8Lx7oDALSs1rQOFzpCCKloWpGpoYxwkF6k/LbpVPupohYeSLJTiyncAKrC32xg3olPQjnBSxlaDGo2yI1q9RAKV114Y4uGkK6oXs6gi7mgOXpcAoZd+hSMnotuEsCinus" ++
  "ujqUXwsMu3l6/Zfk3dUCDUNxrRuoEVNj77RqlxcwgHzL8lBQ9hYvGBZyO3bV+5W0r6nlGc3TUWuXHuETNWYqoil3hLBpsYd+qxjL0XlCUKbKpqMRDublUQ65At1DujQQMypoKSqPRH4coD1/8SHMQs2dJF5MDAvU2FQu0URraXSS2eMykL8B0ZJ6IXsd7lZq3mXT+2ZB" ++
  "t+HZdSqLgUA7oTfyoK3KtyAqOi+3ZYmWSNJqtYifOuyEzm1TPZCoo+5CZclIiO/E+HGtCQHBT1cqqvmCTRBlRAMBqPv66jUrVn3B3g5JPOo8Nb09k2jPv2itl0/P0D4TyxXaoJU5jTjVnKGGIJtF/FZIQuwaqsZOg9AXZRC9KVmYzEMTUId5+PY+5C4GG7rSu1XSG8at" ++
  "Qe3ndj16sipXRCrs6IH3kortKlVbuIVA0wt5yk66QxMqB+seNMOV3JWTHgKVCf2b1JqScoIGmDtb9GgZraGBZ5WI7KrHu/TTnBQORQ6/na51g1ljR5SSISHFEfo+jUgpetqvlE0fbSdodGFFNPFhYsE3hTkJcfNbFc+MTeobSQwVlPhsUZVUSwg0jNBuoQ9hHkVjHo2s" ++
  "v4AnKIjXzsDpPj203sUgcGmlZ6Ugx6IbX0TEsqWog+nL4UHl6ejp+OnkCbN4CCmHmqoLJUDNg6pxHQogNFeAjCxSrmzp+SQFAlGtQhphst9V23Q0itVQDhNAkDZAr4P+16ZUXRAZHHQkQSqHlD4KcsH2qDK/ToYuTr3I7ZLO7FvgYvTvrrSlbxLVPDSETxqttqlDs1to" ++
  "1ejQiGRlBroCCGV0SGlgLYEEdqphsI/0cxUcB5TEpCFRGaRA2UrHUE6+V36gzLSWcuFQFEhKu5CMbrfpCcxLfShJgIV5BkmdoMODArVWLVIvd7IXI7dvkqzkjsATBFBUOZisyqloquOFdijq6pkQ1Fd105wprGQbxyhy6hyenoSAkHpWFSRB0JL5FWT2tCHXlKtKMwOV" ++
  "Bzwk2PkLctPV3l9Eu0TbczSEmpbvxOhudIH6v/6CJqIEXb7N2VV3NzX3QznkhajkhUPSEJVdtTd8g/u1SF4XfS1SPSv9Siw1OfV/DmHdWfe1LMBr5jxsHS5kC97wvlU2vnjRkgblJGOoc9Kl4Jy/RjeHQT8H83ke3EEQ1molTe+h5mIgjg54EOxeSpr0G3S1t9u0yB4+" ++
  "GAkKrpXkx6SLVrC7fkz9hEqpQhj4dPm2ywmgpEOriEx6GrCmfHQR+4BUF55FeDKBRUduhP2WhlLoQ/jqlqvGbI4P2NuQxiRX/iYs+n/xOt0GZh5UpIIGAQiNr0MBLFk4sJS8W8nU6NKKoyO3Qv8GKbfDUB89LSPpHagS9E08jOH86GfIqzFag29Jy+6q20Y6mU2LpHSZ" ++
  "t5tmbcQCszwIe+9X9GqMBF0+RkcXJ96oOlD37ebHPV6+BAJEmBq1SSrOPUw1f214ZAGg28DwEimZQFNVuyuv6RlP6IyS7OrxKSWMIV3+0p0MlmKYzEGjiWlkp+el9XIvxsimvjfV5WcnQ0LMoAccIU8tn4f+LklLUjhJQrGRBXqJUjSIIUhxJGQCOqtFOmk37NAEnHo4" ++
  "yqJ75rymrIY5teTapQTdhnRoMMM4SIkSnZ6egPSTmRJPAaDwGIbWHpTVEwr9hS4XujoFn9LjXcqumumkyTCpUCsfypebU6ixqGrTvTedUqYAO5LeOtUe8D5htANBTy0CCY2qlZYR6iS5WZLeRSTLJ76umaDXtfTddRpLSCTXSryCA56zq11ehEjWtKqeU4VynbwSqxe6" ++
  "aOYcZq/9ouq0acEp2rSuoIP1OtMvgkwqqiCfzifQIoTndekmJd8PrEkfosC6uelkAKWEvpbMGWk+zfhpf6Io8DJOsojPEjBMIDg8mSeRUYsDWono0GYDPwBLZGp1SrmNNFq6M6yIpwOsOfELy0yujlQCsJdL3iPdRrl8WtNVMFSJnKmtVEczbbDYV8bm6MVYg8VGArcb" ++
  "gmC6R6P/0CumMa/UBZasQ3XCOAKhaFhhjeYuvt+hd3abEL3qYAVHGC2DZnlkaYT6uZLL+QB6TzW7rPpnPYbHmENgwIRoDGjpIjiAFCqlIbXUCuovr9TjA40OOT/1RT75Q1M4y9fTtzg0wTtq8buU+HywI5nZ8Lvppf8gplUC1g8aMVFaBUBmN/nFU+j+IfQsg9Qtah6K" ++
  "eKcPXGmG521cWqnT6+SURBGDXaqbsZM7n4oOiCV0KD4YqWjOCMWyQTowTYG7DvRFUIj0Lto1wqRT0gvHTFZMi8V1qleHghRtYk7Sil1avIurtPeJuQoNdSVaPQ3JnB5rd1KtGNJbPGp2CZWBjPOBJlCw3dRJjxKT0JMHDslDzeKQ1B7PiyV0d/AG4rUjuYmeNA9LnJKo" ++
  "gjgJbQgQwdfX5dvpRHKi9y5Z92biFZLmYkf5bF2ahSDV3/Bl7YDXv0NuZnSMKvEi1/A2EWBo8gJukVpfaVnVIDVsIAtZaZBEy5fyYWFX01kPhjRaqgWIN3pxnPfD1ZqBXpmghmyx+IJqaVieiq2RmkITC14u8QPvUtI8p0uTZ6HMOaKu3i9oDpoBSMHDvFKutmsTdrNN" ++
  "+3wcOgBVUvlyFlV0rn/VXVRvJ3GVeWe48z7XlACS9MJdEN3iiYGfzkZDTpVR5cekNYOROrUnWPOvxpYGbNvWj7/zxfu3b/W2NpnL4G5PG0d3al83C6AFTBqTO9ko5NuYvRCJDlJ11hEN16p39J16jNaMznfiqfKqfDJZhKomHJ9F0BSL/ihEsTi76DXrv3m1Vr9oQdRV" ++
  "ppAUKZiBMGxGES/XJwVkrZzveST6vxOdaHTbe+JZHsVMhUxhuim026U4QWpNImn9fCR6EzWSssicvE6f1A0UqgmfVlsgaTAo5fct9x0PCO/z++bhUJ2iD4faIPJQ5dGxtBeWUz9o7cjstnnHgGZjtNrkxnrpyLNpOlszPWgPUNtsteQY1kjiUWdWrlrQCdWJR1oLsq6V" ++
  "PkATgUhoXk3NwEeZepurVFU2+MFyGoQMWvCQDjq+oxce9Ma7bmu9dVYIU8bZSCCqzvWGRxnt1uOMVshUlPZ0Fd2+lyL2M47nAws8TNIUGz38lah8Hm0y6vWcexKolVLFctAfkR6xqt6qTl1lf+d7KdKjLmyu1PfQsPKXnDs5Sp2ZaEUn9Nq3NMLzQXl1IoiM5ahotSiv" ++
  "TohgMvdOF/5qgm6ufakzhaSg+KRgKTw1IxNKWi3Mh0AG0NxSeTwn1Ws9dZYOcrCGOYQQVYGRioymoThXNDya8WOuhxbVa458bKxK79vTlJYWo/l4Y6dhSUuo0YJXF5TQZ/8HPtnHzlt1rk8Fq1N9KpzP9KlgPtGnQtV5PhWsT/MpjzrLp6Hn0tj5HFFb2hlYsnkR8W0c" ++
  "wkc7GZ8kmPBJwoFPEgx8klCCngQzPomH8Emh59LY+RwKH+3r6vZWI9DdvnFmvGecwdyTdBKtLuajSP9Su2q0dkZKYE3t2jmkWNi+JWlHUQ0PSgzQRFbt4xFXVFkJgRylNbgaLayrvLSKUI1DS42bsUXqTcuKeBpJ8ym6AEDngfwOprx0cCh2k5WS0KfNH+gvstq99Dpq" ++
  "HkwgaW5M2blP8JLNHp10NygxpAP9UVHvtayqR7B5M2XzIkmiq74vJgPDdsp83kiH5ubQgpGjDtzkFTY1SCJRqrNCPDs+G3Haq8SmRwsw/ekUlF0at/n4yg4EGqFpQphMMsJkuVnPPpRkU4tqGHEs+wMNGuqIGAKIpXn3gD0+HBE/C/ChBuXPc3+hfPnXF7vaEFJhIU3r" ++
  "yRygbSElL2NBoZPG/7+9L+ttHFnW/Ct6FwxoXx6TiySWKVHNxbbq11C2y3VraXd1d5V8XF3nnGoMMAvu48G9wPy7iS8iSCYlSladO4PBYC5gi2RkZOQWuceyLYxXvYT4rn4k96k8knt3FfBJPEd9V8XXWU6tcfo3Kax6eNv9ZHCs39pz4iQX+5DWkDwoS9TPJiv2kxNG" ++
  "HCRcm02iI3/9rJJRftk7omTgO2mTc9HzJvQfOgndy6d9FivJ1otpZ/Is3PwQ90fOeOWQB6di6EblOUB5bQxMuYeQAW5FTYczO6/ETfj0jl62Ed+90VbepZ00djGStQXoSJ+0zxKkPo4EsqjFITjFeZJLOWZBsfw6wNKhvAzFeCCLoiLL11ENsOUi1CCQOOG1G5yqHp6H" ++
  "cPYkRywQWpS1FbjRivfg/GKfiwjEi9yMr69kZUD94Te5UKTek8X+oz5zviHXriGgD1CmST7QyFu0rR6n1I5Z5L06LaGksaGMkzd8AgPREX5xDUwep7m/XKcbvlZ+z4Pyzx4fZ9zzx1tPw4tcPwD6PilLwWcO99QxcSUvt8LF/Q+fWa2N97Y4wsFHyVAQiYiu+TBpGbz2" ++
  "t+aGn7nsMNf7O9Zys2qvrWSzuLX3Rjc4hYh9w2Zu2ezwa79cJvnHQtCqOA7BHhzNLXdeIa0UL9h4bXFyYJ1b6UIS7UdTBtZLctLkmTmGORHA4bGeFwd6KOrVT/O168QYBXgH9IGXmx9Q0A9cbplci+PHzHFCv1pzWDAwdA2SCEvXYUKtPL20ye0BGVFOXmtoNdAyirwy" ++
  "QjEvtizoo0jZpK3yuEa+36oNx5u3ZUABeRd61XsRKbKAkhKMl1Kd8wb4IA3284zwnEakEGdLuMmkObQ1y14FtAW93ES0OMBhLc3VacaL5zCg3WG62ZaNAyBvyyjuxgT5nDr4qhAd/LmQUBTT8Lhpk/sA7dWGJkzEjzZ5gVMFyykWruO+yf2wReVPlwuLY+s/U5Q03Fzo" ++
  "gQGCf6O9SfQ7rR0TCBVdlpKMh4kcZi0xV7Q2Zv9vEBwIIMHI4mOQI/AhsnaEFE8FF3xmr7molod3cZWJwrozf/g3RZdi/V6GZSuzzJIioSqBqsxYRSXsuFOuX1ezEv9exZU5BBclZbpMiLqS3G+YFt+i2BiHNfKbVadWRpI0g1wZ7fTlnvSrXKlpTRPy3xvaJKfB3ayL" ++
  "7b3e2cYsOsgf1GdivfQtboaldPGmfMcEgxVYvUx6GBrxCpWmtmy5XtRToymrVW8+Npd8jN+QlyxIFiUytews0xaj+i/yyTcsm+LqOy7QqQss5axeRISjzAs3LbscjYkuMivFBgTZvpQ88CZhkUmVXUUWc4PrMTvfoUWyvA6Se3W+t6mnxU6GkdI7iB3xhAwdiapLF/f4" ++
  "DV2nHtTYs+soVbl2Bx1nj9p1vOHEKn6uh9tMVrBOKXKg1V5+S/OVn0konNqqMcQ7u3fn2RqL0AteB+61Dqa/og7e035yjlF9Drugsf+eGFJfi7tfR/qeRy0RbiA5fbGKLmiHid0Wi5CgKvZhPDMeIBos6pQsNiOsqMdWKVZevgdnn3ly449DEtr86XH926LUb1XQtOp3" ++
  "H3mJ5OmFt6q5Q+3d2lGYWa5K8YcBEoO155tiNATofuxYUm+PJfX2WFJvjybVlMYVjlmOlqkKbUptP+6xUDmrOpn6w8nUH06m/nA69aZ0ncxrLC/gTWlV+Ifw46Wj0IcjqTwcSeXhSCrbiG/af8qCMC1OcqG9gGX2Nz6/sc59Kath4DUj/3GAXB3wx7wVy4vDd/20zuoV" ++
  "Ut3UKECXXzSoGPT7FmSONT2tnlMYJZAHx8O4R8MfcJQSQ16mipJc4wL/MGBb6bIWN+ps+lq7H2vJUo2VlspxzlXE/cvJ0F/RMErtJKIWh3eCceQYDF1ltqvsNYZrLb6AxZ5FFBUskCUf1O548Z3z0reUVy5Ca1DZkVOStA6M+PiZVSdw7xQtI9xc48AovGZx+1jkmLCV" ++
  "wHG8CVafCpEg2iKlLH6WMzxfwiK1rtBBgNfX2FVR8PKeaTmUw6i4KcZHGosYbsbyT6wxzdtCAKAtEmJ/x/czMKwesHoICymBWknJgqW0l6wC+IsFT/nYrwqwYDHvDFUo9spfBLgrwCKZa5ttvrC8OB9f8NUddFnSmEVPIWgRobC3ekqnNQcdEl7NRhWokAPG7jvE6U9u" ++
  "fJZTQv1wnEWwpq0nJKdTljrx+M2yoEGYEM6Sg8i8tGhRB9dEqfj8r6qfpFXJ6Qi2JeSAq/OWeIzBIBBBtqEFDxEblQ5ZsqZJsXGmwD0ILubge5VNybeCNGmx4bTqqgLnAgVGESeSK22RZi1J4zqoIcAJWKwbaetrorAgSasarkC0+BJxsBUfjJdfLCkZerGv1ys41KU+" ++
  "Vt4rs3xc+cUiZVCfYnEzBaZRwIprnD9erbGyDmtzmXRxn2ZOvqZ9Em7tW6o+wfo90RLXzfM5DhTc0ARL2XGHGYPy4tKrWIvJzkfdh+TrOIL6GF8m2grctjgbTTIxREajTVkCyA0m1ZEHfNbyqYqBPFyxhjYuBrjIYyrbhSroOFB5wZ0EAfhu4tbLpV1pKUybHWbbyE3V" ++
  "K5ywShFZO/g2zdYGRyhEPIcyX0ar6eU69LdZipvXK5wMtruzkce0N3MR0WHdk1wVQGTMiDZ6Jyu7M7mlpSz4oZdTg7S8OFvmrACALlUMZOiulwJucaeyLyRLpRkTiGONj+WLXEUWn/neJ0/ymMsrWmVY8dISoXWa396ZGPbsV3OUc9ap5HOqYcke6LzAhyqMNSqDmXwR" ++
  "iEOVJ24UpSzSwtrc+gV9WN4WecUlRWIyiDEmlwaCSpgWMPpBae6SdifX+Zpe4ECcRzpVs2FkyucYBuBCmj6WokFSXWDS6oOmKGTI9XdU2B3yvmP12x13iZ2h9QeM5QXJ1xbUz833i94fuHfy6WWHBdzcxH+Fr5BdkoWzLN6tqUtGSbRe8JWDwHQtIx/U7G6G4QiCTFAm" ++
  "+G8Xvf/e39GuFMpa8S4xYbpbBSnlhBKKgygk+jusYloI+jt9zGkDsEuCkAbPXRDD6F3s/43gkI3PeHcH6I4ynIXWtxuJVx+ijO8L67vMDJsUYbhFTQD/9aL3JDEgFEOTRkD4nN0Kxw56smnW0XaUc/iHCJIdLoeRgxCHi3hRCpvDfBUhT0qr/G5KqAgsGqkGs2qmgP2P" ++
  "i95f/ypOX3YmvDRh8I1qlBZHrkkCKecF9VkUzd3RJOSvApfomFAYYGcyWj0Gc6xxdk6QLOVC0t9Rp6Q/0CJuw4VLsPR3Ds23N39c9L71Ka1suaNOv8Opc5CiPviwfDcn+LW52a2jaw+tYcKbXZql6YZe13weQD2ScBJoxPux7OmvfAr1qK9kVLMidbGDvIYKIvB3GGEC" ++
  "oR3pLonMeocTNX8nQv5etprv2JXYDuqZ8uagl2k2cGLDn2aJklPqkFeG371szTeH/PWvxCnaJjQI79a0PAkg2ULV6MHVUBg+01rvinl2TenPNn8hdp+JBUfiu8wNaNakUPG2Q3XkL2k63GFKEs3iePO3K0Ob4jihNoA9AioA9S1Wrt95ZnMhb9RcOMWAAzWPFih/0IDs" ++
  "8pAw6Vj3X9XIFyRRgk14oof2xTT2YA+1R5H2JKmO4tUlRY6ilQcgqkYuEiDqv5DPiGuiIYcQWWXXQNbquwaH3Lm/9MPGQPtDnIaL1Wsd1uzcyZSXQnCn0EmiQm50H7dfpGJ3J1YXLAmgopQ1mFVAhdh5VdBBARXeXEANrAkfHRSQSdoZ/lvha1J3shLvsNCF5JFFoAAV" ++
  "FGxgcTmsIuan8qE4fy+cWSqBIuphVsLoNWZdOysFqJYVBRbCPPJ1rM0LZHhpaUEY+FIle6RBbYgmYoO4OW0A520f+kaay8bbb0o7jLOCKSAo+ar4Ksqpn3Inox/F1lW+7C2qgvbTrCfBZnNojXzJ6sQwW5BcFuk1hnHijSFCvjHIylZj+H4eG5G0ToKbY/ltCpK6agjQ" ++
  "ymgIseuwIfigPhtwJKu+XhY2ZrY5kLPbHCSpNYdZWW5GCPWiEfeS5f2F9AdWYZY8HQ3/sYi08+A9g6Aon0FU7TiBY8E/Eq2ebHH20pB8Y/5K81H1hCx+PJ4NW8T0IO6RQBtcz1CNQY6SPRp8wAtnkmiqFRUAPErhaPiXOrXyyr4QKD0wt1aGlNbxZIY6tJrHcCyE/I6K" ++
  "2aq0rErXqtaUfomih36oDlUhkotriuIjLkmLtK2+K2n9UtL6JaT1Q0kXJJh0lVXabmqVEyhM1OnTDI6W9gXALes75UlE6Rs5r0tun8Y9kAI/jb6vInIauzHbxWhwVr6PIzdn/Dh+Y86PozdmvfTAfkbOj+I2Z/woemO+j2GDXbon2cXHjQS2/tC9fJljmtFPMU1zjBN8" ++
  "0xyhsQhnZ/5Hsv0DGW5G1RuSszP8cG6GH34gww/nZ/jhBG+fneFT6Kc4/AcyfyKCxR5FJ7gA3PdsAit5TxZmVt2onYtvFeLcKLZ643kxzipGsX44txg1/POKUYtyVjFqMc4qhiyyzy2EhX1eEawIZxXAwj8r+7pOOzf/Nvp5BbBjnFUCO8JZRbD3LOeW4yDOeYU5iHZW" ++
  "iQ5iVcUSAfMLNl0j+vBF5g9DrCweBlYZOQyrkivM1daTqkOtZOoBVRJ1eEW+kGc9SOEgwErkIKxK5yCoSkqq82iCR4KtZI9gVIkfQdjPQlO6RxJrToGhWOEM7RWOdR+/11j7AXZ77YdZTbYfZEmV7Ic9sIzIQQxLfuQgRiOd3FLWbCiP6FPsB6AmRp38GgJi2pWqWlHz" ++
  "DCZ2BPljUSsHAVatHIRVtXIQZNXKfthvXPKDGFatHMRopPOxKk5DQZqL0Jj55mzvZ7g5q/uZbMxecWZ9mMvDECuzh4FVng/DrKwfBEoJDuNYBTmM00zq436/bSjVQcBBD24s00GQVaT9MCnRQQyrQAcxGulYxbFml4YyNYdaBWtGqErXHG4VsRFBytkc1ypsc9zjZDE4" ++
  "TDsNy4KGfdPpPerJLenJjbOcsVfTe7A6lYvzsK2MnRehyut5+I17o0K5GGZXm7abtfDm3U8NpXG7U8OwZjxZChGOJ6qrfxEfcQFF/0vhDO4bf1uZd9gdISSbvVLF+mAWFKRWA5LFN9G6dZrKEQxrLsIV5GkacrN4kspRFHsCO5KSPZG4lxdpELJoTl0D/bB6XsK1Vqds" ++
  "6u5Mui8j26x6vPXRxx34/gNaed1a9uqFv7IkYn+xWwxBbhazhFklHEv04Jq3roIPgaVC7Z7Px6Ek/xWZwMvnQrc4LLxU7WHuKs36J42zo59PZRdoqW2hRRRdfiq6AH/gp7BLk9aCSiiM/DK0rn4qmpFyvKp2sYBXqt++DiCjcSGqDYXdP39jAyyFAssa+sqPVaUBw8dl" ++
  "g1IFxpALB9bjoD0dUQ9Tg4HZfF7pAsEVCxRGFux6C3JuOAhbqgi9KvgWis8MY87WqoKFPrVqYkNYXH5hLv37wpoJlAtZC9RW8E1aaic5D1ps6GwTZZYasq3zc+1EG7G5G5YKCCuTwQBVodpRaCGoyeNZGLGxj2y+YLOmcRRVygzhnhYK7LLnycr3Xzdpp9DI5m98NKJq" ++
  "PNf1uyonBqwBwU515cCIJY6h4S+nixubquo4s9En1s1QSy+sBkgg1riqqIshkgqdGWR7UpNLzO2Kvowdq1mv5ipaBqLhz/ZrPYuof7MOI69QS8xpbzVnh81qjy9mkbaZ77O9OVQla3yn0dwHx1Jpwlngq3m+wsBAmt34XrSN6sa3KfE4mxeaG16kdo5TEel7RZwrlpB9" ++
  "trQHZf2YNd1T2FJkQ+A+DLbGyZalLNdRGKn5xZCmOpamE22eaxny1AwbhAC1J9MbWy1IKqvlhXGDNINNlVht9SRrWHObR9BeZbH4WVh4SRBpRzFarJ5gbBAPmTWIE4nnB3QCqqCY/ZHCKh67+KBhD4bgQvGKwJa2jXScfevDUHgWE8XC4GxhjVCDBI75cnMVuXBw4GYu" ++
  "27eBQQNYNReL9i5GbxglnItKo1jC10sjE9I7dWm+T1qbVWFOfptms5mY0Uolgj+f51xDLD0UhJew8b/KUmjZXQezOAugCLyCZfYk97LlOlRr9GnG7qlg8T5PKRSKWNBAdhfRWpuEjY8In3PtFxbrWRjqehtRaTIebV2XOjsNtf429tPXsBGcsaQaPAdAuN67DuB0wKwg" ++
  "7M96jdANEfmGFVh0TqzJFtVhR9/AXGTycl+TCUbtGW5MpUnVEBnKYVZHFMvyGIFFwVs+TfqeKgUGTso0rrEYk26MTr2wBkB4K6rGL0r8lYECIJT4ahp1hRVPHtVZSe2N2tyn9it12RITB7BUDBPqKfE5dT2CLgIx5A/D3mhzMVXqxsbJw6A0autG8Zol+bMYalrExBBH" ++
  "Vl1PwxZ8MjbQCwloqOVSuxIL3KjpWnZHQSycez7b6o4DOIyBM3joKNBwHlHvj3iwgLOFn7LAg8CyIU4UCq+h2qWzHazuLSIa1gyMOlNLpxexf1MY+c4vqa0NzQ15CMNV4FWYXqZyrtcROsYyS2D2Hz0jhrwzbCVFTiKCtAklnUZbmHRywCds4C+5hhow5BepjbyI+hsM" ++
  "vC/glduPt7ifzVLCSC5hdpfqEJK8UQ5jKeiRtNgmrACWRWlyC2Gz3fPZ8ciaEpHxkEYAsQKNgy4aD1YpWz+CWdFPGCg28kojgfepMJAQwBwhG+mfsxXZPI2QKZYlpCE4enOFSg5WWzODi+krGkfZuUip1CvSyp6ID7NvNh6UXZDeUgenEcsC+DBXKb6f4+UHJAqLgTRi"

/-- Part 11 of the compressed table. -/
def characterNamePart11 : String :=
  "XaM9ttmaexYLkPJCASWngpu5WB2gJgkDN49WARtICClT8F8zwxgr7JGzEKo4mmBlhQwtwJrk4GnRFIFKibgVUGOtlzTFh9a3B/8n+l51RihpQMLOeFmYiuC/WqEVCGwrY12vEW2TtpggExpJZ28hHAU9mU0LmgBvaTZZovkAJ3bIYEUqCVjfZYkF2oxqbZNfweQ7C1DF" ++
  "SpzmznwO6+b564gIUBlZeUbv+XV5GYS8SjYQ8qa0c55I4J4DHSzCyAn+mAe0Pi4NzUD+Wl2l5K+CeQKb0Nnr1zB2A8NBeYoNfYpaXfu0OcVcQuwMV1ui2wR9oBu2hoDZ0NBgkiWqeXODdQSrDsdgMxhgzFmUFUXFZKmqCzT7B6wPym5AMKSHshbliYQ9BtDnxsTUF4Qt" ++
  "YQGHxju2Cg79IFTtVixJoL3ZsBVbX3BEChlStyAM0Tm2FbROadlI40iLOjbMu6oWOkxbJS0MbY/s+/GRCF8+OgH0Eh7FO+Tj2lwXttMUXVxYxZg+eRqhMfuCJW88HxNJYbrnXOxVPTMv4tfywibUFFfdxCveR/FmeSQQBT0WJuU/FrqXwb1Q1NaRsHq1/L+U8dUBuxzB" ++
  "fDyV9ccTWX88mfXHk1l/PJX1E4xb8ybIpsrO5uKXop5k6Zci21lWvUxU+e9ct7+jEn+X2vpdCP/OPdTO7fmx6hm14n3heF8Q74vE+yLxvrw0HrB57ZqTxrOr9aWoJ6v1pchHhw07IrujPNoVT2HWmPsU4h6nn0I9UcJ91FofOIF4fBD6/6saTgxpJ6I9nl0Rj+dWxOP5" ++
  "FfF4fkU8nl0Rp3qy7Os04gwuhPzVWf34ZMTTvfhkVDuzkEpaiEsyOysWuJ6QFdBM5pxp+2XsY4meP0FdHAzZDXV9iNTuzsyok9/gPuWngHdGtICG0NbHJU5DacvwsfBD85F1sT7CHFcQpT+b1SpafUywP/bjf5HENO5jEfexiPvIcR817i8c91HjIg/jDi9hfdkjQ5Hd" ++
  "vxCbnPBJBbuaYig/EZd9UKiIWP0S/j6YwIS9EGAd64Q4ozAe3GJfwcK7nOrSBoMiiQ3hmwtYW3fjLHUXiD3p5JvoYhPll1AZpS2scRcZ+9SLYEoc+stmHritazaVEqxMaqjNEj64Z790IDLtsB6tz8dVWLnz7o52wq+jODc30DplN0rLNVwPvIoqh3K0PVgSPrbMsRfw" ++
  "rhmEoW3rRthmxmtVFTfXbBbvmvZysOQZGg9G6XC4TtRo4y0u8aLrfB1mK95gi0O8FVxu+jn8HdDGjzfz4o2H2G4t21s2fcl+3OTcDGdufIaALb4QV7dd0NYLZvB0LI70cIMFu+Jq5RtOduCX2DgdnK3BZtMyV8dEOC+II6pdHKSlWlUpoVCLzXz2Lpjzji+Hpf+wMKKH" ++
  "DTZ+9Ih1PucKdzu5oaaIRH9WtncodkK7sIj9acjp/bY4gyW2fCdbxa21DWVvNqDnddhfgCPeNbcwhajuRiNYLMirc7sUaoZwxrjyMnYHCWeSazUCFgZ8yOKw45tXhvnb78ALaGWiijbzlsGqvTPm+nl04eI3Xbxf+35hL+u9F6hOuJxveVKdIUy3yMGQ2C0Ng/VWbNQh" ++
  "GxBVLw2DykWDHq3LkVy2dMprBls2oLjKsD7ZOysLuODzTbYWsBCtVLZTvl+AX0Y/VrclfOFBuXE6qG/WH6ZdMLXPRfex99jtPfYfu/3HHv3S/+CxO3js0S/99+lB/z088TN87A4fe/RL/3166+OVfgb0pP8envjp4wU/PX7j39Fjd/TYo1/679OD/nt44mdAz8Holx49" ++
  "+3jHT4/f+HdIL/TfwxM/fbzgp8dv/DvAG356/Ma/fX7lX2RhZJunlXoo21RC9P5HbAtGCoTj4dj/N26dr2KY+0W8701BakV1L+VGigKUaP/O0f5ozOEh3p9NQX82RlOgRBPEKsu1wHppjsRrIHpWepat84emprEL0kzs+/F0vp8q1/fj5TqIJ9DGhrfj1Sy3/yiPaUu/" ++
  "yGP/3tQqymPHa/AE6yhzv8hi/9ZU3RL0/UUW+9/QFP9s09ssdqIT/sd5+Z/tOxaP/fkijz2IMenSliwjWJZvZHGuDs8TKWphBrVAr0i8FDFTaw5qtPafSLGicFaKb6xwHMIUntvt7JxEOUjlEOWgBIcopT0ivmAHyYWEXPS+9r8Ovg6/jr6ObXNGh3jf+t8G34bfRt/G" ++
  "+9W/j/tOirUPzqtWbkZ430zObrRmhFP5pql1klfp1arlQVpM8LXBHvgApw5qatiHRC4LbUQt4f/5dCrxm0ohw6vs9u/DpfiHcKnOQ3iwEv3YY0RkvKkahIFNkT40AfcjMjUs6KYDq2BHY1qFlMqoWVCDP7OwLEBDkIjYWRzDUClcfZSKVfk3DHWYLUMYjwMaBxArb2VP" ++
  "OejGFpKdeIVgF/zhIHpDO57EeThFHkIRsCTC/uhUIPvobGKN6P/gJL+dmNz/y17NCfTbCZr7uP9opnAihkWQ4/7rkdQk86eyYklRNebiH9WIdiI///N4/rgSzynDtxPrmH3c423wA9X+TY1u/G71lEJZR2YScXeVlzK0hT1dUfiO631QPWyWvbvwdA6hJqtD2+AifqPU" ++
  "bBqsK7WHA+nd+jx9ZNI4dIR1TqwDZ3ll326Yts5ErKpFvQRYNaKQqyjALbhtE0SJrUs9c49lI0ul+LIDM/pvpzjkt7qplpotkGZTd2qwHsJVEqfRF4em+SJeYer+BbSyaEV5f8pwiKbGPnMR0JoF8ywu/AeaeJmoHOHPoW9WhV+SL0z/ZxVDgx/bwtlHZcCI+PYqjnCy" ++
  "48AinM82sFDJwTxIW6/9OPpELfkpvY5+xbT9CcKvv1LuPiXBza+Ysz9xI3/C2Wu7x/r87qtLliOhUjg4vNu04FJwHpv14oIxvne/lx7Fv4+/T75Pv5vvznf3u/fd/z77e/clhN5LCP2XEAYvIQxfQhi9hDB+CWHyEsL0JQTzEoLzEoL7EoL3EoL/EsLsBYS/Tf+TIf6T" ++
  "IWyGMP8hhmj7nU6nm4dYAUL4KzVzgHqdnN5ayRq+HPadSt7XDSrfi7NGlhm/tzwd38ODls/eW+ijNAH9Bkq2MYxG3otDJhq1V/DWHiT3OsJbkMIg0f0aNgyZEht1vl9siMLqYhmssuR+Br9qMEZ8r3aV76sB+T0NyO9pQP6AAfk9BuQPNCC/pwH5Awbk9zwgv8eATJTD" ++
  "aHXPTmv4Dc4wLtKFEbO895Ytlvs5bBD7sRVam3c4k1R8liNO75tcXrbMs/PsPnvP/vPsef68eA6eXz1fPofPy+fVc/S8fv7pOX5OntPn7Pnq+fr55nnz/PoNO5hRx5EsO5be71mUfiOao3Uc6GNkS/jMhs1Yqtx7XK7gYJ8KYmjyLKCcT9sVZ8s8OU/uk/fkP82e5k+L" ++
  "p+Dp1dPlU/i0fFo9RU/rp5+e4qfkKX3Knq6erp9unjZPkkuRgywyUC4QOU1p5jpGGtCaJhffqcqFXZodrwztTsRILjv8jOKL7vjz5PP0917nc/dz73P/8+Dz8PPoswD7TcBBE3DYBBw1AcdNwEkTcNoEpFJ86X7pfel/GXwZfhl9GX+ZfJl+7jYBe03AfhNw0AQcNgFH" ++
  "TcBxE3DSBJw2AKnq/+8Uqd3JV1nY7tyF7W6eRIt2dwuTo6wZI6LT7d47eHlq925v2n12mgt5RkD62/SmPdgqJDarZBmwxxsCRml7uF391B7eZUG8aY9yYsn26G4VXbPP8PZ4GxL/tsewqtyebCmUB0Z6TdpTdtVuXPSV1MACOriVwLYZcAu+TSmMAG1TZA9dom22UUig" ++
  "cEZvfN/m+14bF8LXRXjYhog3HChW1BzLprgFpTTcfDZru9soXgopj9ULAsNOZiFe1fa2cdtnN8ZUb7RPg3AqDZUE0/csbfvbqD3bw8GYSkD5CFbt2TZodzu5Z1LTYvfGfkIDnU8wqrV2t7t1u/j1r1hKWMxqc0Ld3tbt4bceREN1u9vfun387gVhCG93B1t3gN96IEb2" ++
  "dneYr8wlPbbFtoAaq2zH7gg+Vulx5y5oFQ8Nn8BDJsclq1iMUZxBjbep0+5OMDbR447Gp3Z3WkSQExMCbCP6NXmSEa65o5kgzWCR2cmpOuhxx1Xiiju3BCamxYK2SyxE4Jo18CJUiwQdkAgeHKtYHmJ5R2JpLflPqEgWu43gna+K7SP27EhsbpkZVAZSO86M4tCiIFm3" ++
  "xzNY26fHnU8FnHTytfHocefJ/kj7QnvSFRfgEX3RlE77KT8l4DZatye93Fkv6LGlSRRutuNlwDfNCz8miv185VBofxuxCsylgge4B6bHnX/TnlAzoysOb29S6R8TatrE0KMcEWS+YBMUPgWUTbwP3yLapLEXtzjPk+aurIHbNGlPmgcB2W6+ypJKsgGozdQacbfpq/bE" ++
  "7Hd7Sdk09X0N4kzBmr1oMnF8HFIQ8OcZLK3HVJPONqRfd2sjQSVFQt2fszVCw6w9qRxT8J6bAP8SloPUxKMBYAJNRlaflnEBnXjiP8iQcdGj921CvzRW2EjMqJNZgdYHQtJvT2k0cWlk7ez1cHgCoCF+2oUq2xXUDyBtAoaddj9cdOl3m9EvsVUVioxMex8oCwTP6LdP" ++
  "u/a06OcptAaJi6d91Nh0UKw/Kjae0mCzaE+H+ZLWguxR0LAQBIG21+0pcd3a0KPkOlpFx17BXNPRu3UcpRa7TUs2rCOO3x4gbkF4QtMcZWxScbXWwXQ7d/Er9cmnBXA2XXJhgCqDcWwqgtm6AX4FtxnHyctapmUu1PvqwduESLh5QrOXe8siKSm67YpHh6kHf5axEW/g" ++
  "UKRZiusV6rBTGqsop36+XtIvN427aWlttqez3KwpeHa7DgvhH6oJKk9FwdCs79DAwwpwGxpde3njenq+MBTYf6gtXwHsD2a5O3/VHtFAa8Jle9yZ0jxAk6ErhulX0LPhFX8rufSv1XhK2/Xgn3u1Mp4pqIW0uWn7VNzQRAVsFsFHJUFnv5hN2zf9DzQ/+mb4IaRp0qN9" ++
  "VOD4qVHfM86luYA42rw1D1rLedSK5xtMK13fhRTNPAtbr6LVPPEhrLWhHZCf0cR7GWz86BJY3ldoEs4rgP8rAwpUgGa/VhEX9LykddKk4+Szq6SLN/euh4d318fDz5dXCV5mQBjQIE+or6+pvunNvV29wtO75QctF+IlXmZ5HOKlR2MTjc304hCEX9x87c3wQpVEFUEv" ++
  "NAWF/DLLV9yQvc5wli+X/AarNaA9GhF6gJcxofPLJJ8l/DIlkvTSpTn42g9oHKLeC5HGMAzgsbU1y1ZsTb3dGwwmOW3eMIu1ssJ9BsDTNx78EBUAZ2zOM5OlujZ759sg4J5p/eoIBdOhpcomoBwRSwEhSP242lO3jRlRyxBv0FfBaZcLs0yDFnhw5mNvRO1JL93bHh69" ++
  "2z4e/dsBHoPbIR7D2xEeo9sxHuPbCR6T2yke09tuB09zx2ScOybj3jEZ747J+HdMZnYHMlT/PI+vdPM/49UlrRnKwsWWdfMQEn0uXyvpHo9IzGa5QwslvGw3cGIQQ6uLS8yBr6+ZQ7q9nkeDcbbyWfuWN9itVdbt0qizyjh4+JmF2BjowKv9Ffs6paXKyB+OYBPXn5kA" ++
  "+mn748SCUcZ/oLeM/PHoY23A4NDx+BmhDo5GFihvMDerchTwaa7peh13mDub1/CpQFPhMktqHjdSmuUNDSch+6zAcnNpWlcmCZJiY5t0x/zavZvws3c35Wf/ttfhlwG1C55Dahg8R9QyeI6pafCcUNvgOaXGwdPcCUFHCbpK0LvtC0FfCc6EYLcjBLtdIdjtCcFuXwh2" ++
  "B0KwOxSCtGxmgt3x7YAJ0mKYCXanStAoQUcJukrQU4K+EpwJwV5HCPa6t0Mm2OsJwV5fCPYGQrA3FIK9kRDsjYVgbyIEe1MlaJSgczsSgq4S9JSgrwRnQrDfEYL9rhDs94Rgvy8E+wMh2B/ejplgfyQE+2Mh2J8Iwf5UCRol6ChBVwl6StBXgrPbCRMcdITgoCsEBz0h" ++
  "OOgLwcFACA6GQnAwEoKDsRAcTITgYHo7FYJGCTpK0FWCnhL0leBMCA47QnCofDhUPhz2aXhgisPBPVMcDu+Z4nB0zxSH43umOJzcM8Xh9F4omnuh6NwLRfdeKHp3XSHoK8GZEBx1hOCoKwRHPSE46gvB0UAIjoZCcDQSgiNqBCY4mgjB0VQJGiXoKEFXCXpK0FeCMyE4" ++
  "7gjBcfdOusq4JwTHfSE4HgjB8VAIjkdCcDwWguOJEBxPlaBRgtQThKCrBD0l6CvBmRCcdITgpCsEJz0hOOkLwclACE6Gd9JVJiMhOBkLwclECE6mStAoQUcJukrQU4K+EiQ2YILTjhCcdoXgtCcEp30hOB0IwelQCE5HQnA6FoLTiRCcTu+kq0yNEnSUoKsEPSXoK8GZ" ++
  "EDQdIWi6QtD0hKChvsgEjfKhUT40yodG+dAoHxrlQ6N8aJQPjfKh8e6kqxjlQ6N86CgfOsqHjvKho3zoKB86yoeO8qEzpiGbKTrKiI4yoqOM6CgjOsqIjjKio4zoKCO6yohuV7uKq4zoKiO6yoiuMqKrjOgqI7rKiK4yoquM6DraVVxlRFcZ0VVGdJURPWVETxnRU0b0" ++
  "lBE9ZURvqF3FU0b0lBE9ZURPGdFTRvSUET1lRE8Z0VNG9GbaVXxlRF8Z0VdG9JURfWVEXxnRV0b0lRF9ZUR/ql3FV0b0lRF9ZURfGdFXRvSJEf8X"

def characterNameData : String :=
  characterNamePart0 ++ characterNamePart1 ++ characterNamePart2 ++ characterNamePart3 ++
  characterNamePart4 ++ characterNamePart5 ++ characterNamePart6 ++ characterNamePart7 ++
  characterNamePart8 ++ characterNamePart9 ++ characterNamePart10 ++ characterNamePart11

end Uptime.Encoding
