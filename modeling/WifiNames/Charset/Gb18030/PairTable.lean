namespace WifiNames.Charset.Gb18030

/-!
# GB18030 — the two-byte table

The table has 126 rows, one for each lead byte `81` to `FE`, and a row has 190 cells, one for
each trail byte `40` to `7E` and `80` to `FE`.  Every cell holds a character of the Basic
Multilingual Plane.

A row is ten words of nineteen cells.  A cell is four hex digits, and the digits of a word are
written in the order of its cells, so that a row reads from left to right.

* `cellsPerRow`, `cellsPerWord` — the two sizes above.
* `pairWords` — the words of all rows, in order.
* `pairCode?` — the code point in the cell of a given number.
-/

/-- How many trail bytes there are. -/
def cellsPerRow : Nat := 190

/-- How many cells share one word of the table. -/
def cellsPerWord : Nat := 19

/-- The words of the table; the comment before each group of ten names its lead byte. -/
def pairWords : Array Nat := #[
  -- 81
  0x4e024e044e054e064e0f4e124e174e1f4e204e214e234e264e294e2e4e2f4e314e334e354e37,
  0x4e3c4e404e414e424e444e464e4a4e514e554e574e5a4e5b4e624e634e644e654e674e684e6a,
  0x4e6b4e6c4e6d4e6e4e6f4e724e744e754e764e774e784e794e7a4e7b4e7c4e7d4e7f4e804e81,
  0x4e824e834e844e854e874e8a4e904e964e974e994e9c4e9d4e9e4ea34eaa4eaf4eb04eb14eb4,
  0x4eb64eb74eb84eb94ebc4ebd4ebe4ec84ecc4ecf4ed04ed24eda4edb4edc4ee04ee24ee64ee7,
  0x4ee94eed4eee4eef4ef14ef44ef84ef94efa4efc4efe4f004f024f034f044f054f064f074f08,
  0x4f0b4f0c4f124f134f144f154f164f1c4f1d4f214f234f284f294f2c4f2d4f2e4f314f334f35,
  0x4f374f394f3b4f3e4f3f4f404f414f424f444f454f474f484f494f4a4f4b4f4c4f524f544f56,
  0x4f614f624f664f684f6a4f6b4f6d4f6e4f714f724f754f774f784f794f7a4f7d4f804f814f82,
  0x4f854f864f874f8a4f8c4f8e4f904f924f934f954f964f984f994f9a4f9c4f9e4f9f4fa14fa2,
  -- 82
  0x4fa44fab4fad4fb04fb14fb24fb34fb44fb64fb74fb84fb94fba4fbb4fbc4fbd4fbe4fc04fc1,
  0x4fc24fc64fc74fc84fc94fcb4fcc4fcd4fd24fd34fd44fd54fd64fd94fdb4fe04fe24fe44fe5,
  0x4fe74feb4fec4ff04ff24ff44ff54ff64ff74ff94ffb4ffc4ffd4fff50005001500250035004,
  0x50055006500750085009500a500b500e501050115013501550165017501b501d501e50205022,
  0x502350245027502b502f5030503150325033503450355036503750385039503b503d503f5040,
  0x504150425044504550465049504a504b504d505050515052505350545056505750585059505b,
  0x505d505e505f506050615062506350645066506750685069506a506b506d506e506f50705071,
  0x507250735074507550785079507a507c507d5081508250835084508650875089508a508b508c,
  0x508e508f5090509150925093509450955096509750985099509a509b509c509d509e509f50a0,
  0x50a150a250a450a650aa50ab50ad50ae50af50b050b150b350b450b550b650b750b850b950bc,
  -- 83
  0x50bd50be50bf50c050c150c250c350c450c550c650c750c850c950ca50cb50cc50cd50ce50d0,
  0x50d150d250d350d450d550d750d850d950db50dc50dd50de50df50e050e150e250e350e450e5,
  0x50e850e950ea50eb50ef50f050f150f250f450f650f750f850f950fa50fc50fd50fe50ff5100,
  0x5101510251035104510551085109510a510c510d510e510f5110511151135114511551165117,
  0x51185119511a511b511c511d511e511f512051225123512451255126512751285129512a512b,
  0x512c512d512e512f5130513151325133513451355136513751385139513a513b513c513d513e,
  0x51425147514a514c514e514f515051525153515751585159515b515d515e515f516051615163,
  0x5164516651675169516a516f5172517a517e517f5183518451865187518a518b518e518f5190,
  0x5191519351945198519a519d519e519f51a151a351a651a751a851a951aa51ad51ae51b451b8,
  0x51b951ba51be51bf51c151c251c351c551c851ca51cd51ce51d051d251d351d451d551d651d7,
  -- 84
  0x51d851d951da51dc51de51df51e251e351e551e651e751e851e951ea51ec51ee51f151f251f4,
  0x51f751fe520452055209520b520c520f5210521352145215521c521e521f5221522252235225,
  0x52265227522a522c522f5231523252345235523c523e524452455246524752485249524b524e,
  0x524f525252535255525752585259525a525b525d525f526052625263526452665268526b526c,
  0x526d526e527052715273527452755276527752785279527a527b527c527e5280528352845285,
  0x528652875289528a528b528c528d528e528f52915292529452955296529752985299529a529c,
  0x52a452a552a652a752ae52af52b052b452b552b652b752b852b952ba52bb52bc52bd52c052c1,
  0x52c252c452c552c652c852ca52cc52cd52ce52cf52d152d352d452d552d752d952da52db52dc,
  0x52dd52de52e052e152e252e352e552e652e752e852e952ea52eb52ec52ed52ee52ef52f152f2,
  0x52f352f452f552f652f752f852fb52fc52fd530153025303530453075309530a530b530c530e,
  -- 85
  0x53115312531353145318531b531c531e531f532253245325532753285329532b532c532d532f,
  0x533053315332533353345335533653375338533c533d5340534253445346534b534c534d5350,
  0x535453585359535b535d53655368536a536c536d537253765379537b537c537d537e53805381,
  0x538353875388538a538e538f53905391539253935394539653975399539b539c539e53a053a1,
  0x53a453a753aa53ab53ac53ad53af53b053b153b253b353b453b553b753b853b953ba53bc53bd,
  0x53be53c053c353c453c553c653c753ce53cf53d053d253d353d553da53dc53dd53de53e153e2,
  0x53e753f453fa53fe53ff5400540254055407540b541454185419541a541c542254245425542a,
  0x5430543354365437543a543d543f544154425444544554475449544c544d544e544f5451545a,
  0x545d545e545f546054615463546554675469546a546b546c546d546e546f547054745479547a,
  0x547e547f548154835485548754885489548a548d5491549354975498549c549e549f54a054a1,
  -- 86
  0x54a254a554ae54b054b254b554b654b754b954ba54bc54be54c354c554ca54cb54d654d854db,
  0x54e054e154e254e354e454eb54ec54ef54f054f154f454f554f654f754f854f954fb54fe5500,
  0x55025503550455055508550a550b550c550d550e5512551355155516551755185519551a551c,
  0x551d551e551f55215525552655285529552b552d553255345535553655385539553a553b553d,
  0x55405542554555475548554b554c554d554e554f5551555255535554555755585559555a555b,
  0x555d555e555f55605562556355685569556b556f557055715572557355745579557a557d557f,
  0x55855586558c558d558e559055925593559555965597559a559b559e55a055a155a255a355a4,
  0x55a555a655a855a955aa55ab55ac55ad55ae55af55b055b255b455b655b855ba55bc55bf55c0,
  0x55c155c255c355c655c755c855ca55cb55ce55cf55d055d555d755d855d955da55db55de55e0,
  0x55e255e755e955ed55ee55f055f155f455f655f855f955fa55fb55fc55ff5602560356045605,
  -- 87
  0x56065607560a560b560d561056115612561356145615561656175619561a561c561d56205621,
  0x56225625562656285629562a562b562e562f56305633563556375638563a563c563d563e5640,
  0x564156425643564456455646564756485649564a564b564f565056515652565356555656565a,
  0x565b565d565e565f566056615663566556665667566d566e566f567056725673567456755677,
  0x56785679567a567d567e567f56805681568256835684568756885689568a568b568c568d5690,
  0x56915692569456955696569756985699569a569b569c569d569e569f56a056a156a256a456a5,
  0x56a656a756a856a956aa56ab56ac56ad56ae56b056b156b256b356b456b556b656b856b956ba,
  0x56bb56bd56be56bf56c056c156c256c356c456c556c656c756c856c956cb56cc56cd56ce56cf,
  0x56d056d156d256d356d556d656d856d956dc56e356e556e656e756e856e956ea56ec56ee56ef,
  0x56f256f356f656f756f856fb56fc57005701570257055707570b570c570d570e570f57105711,
  -- 88
  0x57125713571457155716571757185719571a571b571d571e5720572157225724572557265727,
  0x572b5731573257345735573657375738573c573d573f5741574357445745574657485749574b,
  0x57525753575457555756575857595762576357655767576c576e577057715772577457755778,
  0x5779577a577d577e577f57805781578757885789578a578d578e578f57905791579457955796,
  0x579757985799579a579c579d579e579f57a557a857aa57ac57af57b057b157b357b557b657b7,
  0x57b957ba57bb57bc57bd57be57bf57c057c157c457c557c657c757c857c957ca57cc57cd57d0,
  0x57d157d357d657d757db57dc57de57e157e257e357e557e657e757e857e957ea57eb57ec57ee,
  0x57f057f157f257f357f557f657f757fb57fc57fe57ff580158035804580558085809580a580c,
  0x580e580f5810581258135814581658175818581a581b581c581d581f58225823582558265827,
  0x58285829582b582c582d582e582f58315832583358345836583758385839583a583b583c583d,
  -- 89
  0x583e583f584058415842584358455846584758485849584a584b584e584f5850585258535855,
  0x585658575859585a585b585c585d585f586058615862586358645866586758685869586a586d,
  0x586e586f5870587158725873587458755876587758785879587a587b587c587d587f58825884,
  0x588658875888588a588b588c588d588e588f5890589158945895589658975898589b589c589d,
  0x58a058a158a258a358a458a558a658a758aa58ab58ac58ad58ae58af58b058b158b258b358b4,
  0x58b558b658b758b858b958ba58bb58bd58be58bf58c058c258c358c458c658c758c858c958ca,
  0x58cb58cc58cd58ce58cf58d058d258d358d458d658d758d858d958da58db58dc58dd58de58df,
  0x58e058e158e258e358e558e658e758e858e958ea58ed58ef58f158f258f458f558f758f858fa,
  0x58fb58fc58fd58fe58ff5900590159035905590659085909590a590b590c590e591059115912,
  0x591359175918591b591d591e592059215922592359265928592c59305932593359355936593b,
  -- 8A
  0x593d593e593f5940594359455946594a594c594d5950595259535959595b595c595d595e595f,
  0x5961596359645966596759685969596a596b596c596d596e596f59705971597259755977597a,
  0x597b597c597e597f598059855989598b598c598e598f59905991599459955998599a599b599c,
  0x599d599f59a059a159a259a659a759ac59ad59b059b159b359b459b559b659b759b859ba59bc,
  0x59bd59bf59c059c159c259c359c459c559c759c859c959cc59cd59ce59cf59d559d659d959db,
  0x59de59df59e059e159e259e459e659e759e959ea59eb59ed59ee59ef59f059f159f259f359f4,
  0x59f559f659f759f859fa59fc59fd59fe5a005a025a0a5a0b5a0d5a0e5a0f5a105a125a145a15,
  0x5a165a175a195a1a5a1b5a1d5a1e5a215a225a245a265a275a285a2a5a2b5a2c5a2d5a2e5a2f,
  0x5a305a335a355a375a385a395a3a5a3b5a3d5a3e5a3f5a415a425a435a445a455a475a485a4b,
  0x5a4c5a4d5a4e5a4f5a505a515a525a535a545a565a575a585a595a5b5a5c5a5d5a5e5a5f5a60,
  -- 8B
  0x5a615a635a645a655a665a685a695a6b5a6c5a6d5a6e5a6f5a705a715a725a735a785a795a7b,
  0x5a7c5a7d5a7e5a805a815a825a835a845a855a865a875a885a895a8a5a8b5a8c5a8d5a8e5a8f,
  0x5a905a915a935a945a955a965a975a985a995a9c5a9d5a9e5a9f5aa05aa15aa25aa35aa45aa5,
  0x5aa65aa75aa85aa95aab5aac5aad5aae5aaf5ab05ab15ab45ab65ab75ab95aba5abb5abc5abd,
  0x5abf5ac05ac35ac45ac55ac65ac75ac85aca5acb5acd5ace5acf5ad05ad15ad35ad55ad75ad9,
  0x5ada5adb5add5ade5adf5ae25ae45ae55ae75ae85aea5aec5aed5aee5aef5af05af25af35af4,
  0x5af55af65af75af85af95afa5afb5afc5afd5afe5aff5b005b015b025b035b045b055b065b07,
  0x5b085b0a5b0b5b0c5b0d5b0e5b0f5b105b115b125b135b145b155b185b195b1a5b1b5b1c5b1d,
  0x5b1e5b1f5b205b215b225b235b245b255b265b275b285b295b2a5b2b5b2c5b2d5b2e5b2f5b30,
  0x5b315b335b355b365b385b395b3a5b3b5b3c5b3d5b3e5b3f5b415b425b435b445b455b465b47,
  -- 8C
  0x5b485b495b4a5b4b5b4c5b4d5b4e5b4f5b525b565b5e5b605b615b675b685b6b5b6d5b6e5b6f,
  0x5b725b745b765b775b785b795b7b5b7c5b7e5b7f5b825b865b8a5b8d5b8e5b905b915b925b94,
  0x5b965b9f5ba75ba85ba95bac5bad5bae5baf5bb15bb25bb75bba5bbb5bbc5bc05bc15bc35bc8,
  0x5bc95bca5bcb5bcd5bce5bcf5bd15bd45bd55bd65bd75bd85bd95bda5bdb5bdc5be05be25be3,
  0x5be65be75be95bea5beb5bec5bed5bef5bf15bf25bf35bf45bf55bf65bf75bfd5bfe5c005c02,
  0x5c035c055c075c085c0b5c0c5c0d5c0e5c105c125c135c175c195c1b5c1e5c1f5c205c215c23,
  0x5c265c285c295c2a5c2b5c2d5c2e5c2f5c305c325c335c355c365c375c435c445c465c475c4c,
  0x5c4d5c525c535c545c565c575c585c5a5c5b5c5c5c5d5c5f5c625c645c675c685c695c6a5c6b,
  0x5c6c5c6d5c705c725c735c745c755c765c775c785c7b5c7c5c7d5c7e5c805c835c845c855c86,
  0x5c875c895c8a5c8b5c8e5c8f5c925c935c955c9d5c9e5c9f5ca05ca15ca45ca55ca65ca75ca8,
  -- 8D
  0x5caa5cae5caf5cb05cb25cb45cb65cb95cba5cbb5cbc5cbe5cc05cc25cc35cc55cc65cc75cc8,
  0x5cc95cca5ccc5ccd5cce5ccf5cd05cd15cd35cd45cd55cd65cd75cd85cda5cdb5cdc5cdd5cde,
  0x5cdf5ce05ce25ce35ce75ce95ceb5cec5cee5cef5cf15cf25cf35cf45cf55cf65cf75cf85cf9,
  0x5cfa5cfc5cfd5cfe5cff5d005d015d045d055d085d095d0a5d0b5d0c5d0d5d0f5d105d115d12,
  0x5d135d155d175d185d195d1a5d1c5d1d5d1f5d205d215d225d235d255d285d2a5d2b5d2c5d2f,
  0x5d305d315d325d335d355d365d375d385d395d3a5d3b5d3c5d3f5d405d415d425d435d445d45,
  0x5d465d485d495d4d5d4e5d4f5d505d515d525d535d545d555d565d575d595d5a5d5c5d5e5d5f,
  0x5d605d615d625d635d645d655d665d675d685d6a5d6d5d6e5d705d715d725d735d755d765d77,
  0x5d785d795d7a5d7b5d7c5d7d5d7e5d7f5d805d815d835d845d855d865d875d885d895d8a5d8b,
  0x5d8c5d8d5d8e5d8f5d905d915d925d935d945d955d965d975d985d9a5d9b5d9c5d9e5d9f5da0,
  -- 8E
  0x5da15da25da35da45da55da65da75da85da95daa5dab5dac5dad5dae5daf5db05db15db25db3,
  0x5db45db55db65db85db95dba5dbb5dbc5dbd5dbe5dbf5dc05dc15dc25dc35dc45dc65dc75dc8,
  0x5dc95dca5dcb5dcc5dce5dcf5dd05dd15dd25dd35dd45dd55dd65dd75dd85dd95dda5ddc5ddf,
  0x5de05de35de45dea5dec5ded5df05df55df65df85df95dfa5dfb5dfc5dff5e005e045e075e09,
  0x5e0a5e0b5e0d5e0e5e125e135e175e1e5e1f5e205e215e225e235e245e255e285e295e2a5e2b,
  0x5e2c5e2f5e305e325e335e345e355e365e395e3a5e3e5e3f5e405e415e435e465e475e485e49,
  0x5e4a5e4b5e4d5e4e5e4f5e505e515e525e535e565e575e585e595e5a5e5c5e5d5e5f5e605e63,
  0x5e645e655e665e675e685e695e6a5e6b5e6c5e6d5e6e5e6f5e705e715e755e775e795e7e5e81,
  0x5e825e835e855e885e895e8c5e8d5e8e5e925e985e9b5e9d5ea15ea25ea35ea45ea85ea95eaa,
  0x5eab5eac5eae5eaf5eb05eb15eb25eb45eba5ebb5ebc5ebd5ebf5ec05ec15ec25ec35ec45ec5,
  -- 8F
  0x5ec65ec75ec85ecb5ecc5ecd5ece5ecf5ed05ed45ed55ed75ed85ed95eda5edc5edd5ede5edf,
  0x5ee05ee15ee25ee35ee45ee55ee65ee75ee95eeb5eec5eed5eee5eef5ef05ef15ef25ef35ef5,
  0x5ef85ef95efb5efc5efd5f055f065f075f095f0c5f0d5f0e5f105f125f145f165f195f1a5f1c,
  0x5f1d5f1e5f215f225f235f245f285f2b5f2c5f2e5f305f325f335f345f355f365f375f385f3b,
  0x5f3d5f3e5f3f5f415f425f435f445f455f465f475f485f495f4a5f4b5f4c5f4d5f4e5f4f5f51,
  0x5f545f595f5a5f5b5f5c5f5e5f5f5f605f635f655f675f685f6b5f6e5f6f5f725f745f755f76,
  0x5f785f7a5f7d5f7e5f7f5f835f865f8d5f8e5f8f5f915f935f945f965f9a5f9b5f9d5f9e5f9f,
  0x5fa05fa25fa35fa45fa55fa65fa75fa95fab5fac5faf5fb05fb15fb25fb35fb45fb65fb85fb9,
  0x5fba5fbb5fbe5fbf5fc05fc15fc25fc75fc85fca5fcb5fce5fd35fd45fd55fda5fdb5fdc5fde,
  0x5fdf5fe25fe35fe55fe65fe85fe95fec5fef5ff05ff25ff35ff45ff65ff75ff95ffa5ffc6007,
  -- 90
  0x60086009600b600c60106011601360176018601a601e601f602260236024602c602d602e6030,
  0x60316032603360346036603760386039603a603d603e6040604460456046604760486049604a,
  0x604c604e604f605160536054605660576058605b605c605e605f6060606160656066606e6071,
  0x6072607460756077607e6080608160826085608660876088608a608b608e608f609060916093,
  0x6095609760986099609c609e60a160a260a460a560a760a960aa60ae60b060b360b560b660b7,
  0x60b960ba60bd60be60bf60c060c160c260c360c460c760c860c960cc60cd60ce60cf60d060d2,
  0x60d360d460d660d760d960db60de60e160e260e360e460e560ea60f160f260f560f760f860fb,
  0x60fc60fd60fe60ff61026103610461056107610a610b610c6110611161126113611461166117,
  0x61186119611b611c611d611e61216122612561286129612a612c612d612e612f613061316132,
  0x6133613461356136613761386139613a613b613c613d613e6140614161426143614461456146,
  -- 91
  0x61476149614b614d614f61506152615361546156615761586159615a615b615c615e615f6160,
  0x616161636164616561666169616a616b616c616d616e616f6171617261736174617661786179,
  0x617a617b617c617d617e617f6180618161826183618461856186618761886189618a618c618d,
  0x618f619061916192619361956196619761986199619a619b619c619e619f61a061a161a261a3,
  0x61a461a561a661aa61ab61ad61ae61af61b061b161b261b361b461b561b661b861b961ba61bb,
  0x61bc61bd61bf61c061c161c361c461c561c661c761c961cc61cd61ce61cf61d061d361d561d6,
  0x61d761d861d961da61db61dc61dd61de61df61e061e161e261e361e461e561e761e861e961ea,
  0x61eb61ec61ed61ee61ef61f061f161f261f361f461f661f761f861f961fa61fb61fc61fd61fe,
  0x62006201620262036204620562076209621362146219621c621d621e62206223622662276228,
  0x6229622b622d622f6230623162326235623662386239623a623b623c6242624462456246624a,
  -- 92
  0x624f62506255625662576259625a625c625d625e625f62606261626262646265626862716272,
  0x6274627562776278627a627b627d6281628262836285628662876288628b628c628d628e628f,
  0x629062946299629c629d629e62a362a662a762a962aa62ad62ae62af62b062b262b362b462b6,
  0x62b762b862ba62be62c062c162c362cb62cf62d162d562dd62de62e062e162e462ea62eb62f0,
  0x62f262f562f862f962fa62fb63006303630463056306630a630b630c630d630f631063126313,
  0x63146315631763186319631c632663276329632c632d632e6330633163336334633563366337,
  0x6338633b633c633e633f63406341634463476348634a63516352635363546356635763586359,
  0x635a635b635c635d63606364636563666368636a636b636c636f637063726373637463756378,
  0x6379637c637d637e637f63816383638463856386638b638d639163936394639563976399639a,
  0x639b639c639d639e639f63a163a463a663ab63af63b163b263b563b663b963bb63bd63bf63c0,
  -- 93
  0x63c163c263c363c563c763c863ca63cb63cc63d163d363d463d563d763d863d963da63db63dc,
  0x63dd63df63e263e463e563e663e763e863eb63ec63ee63ef63f063f163f363f563f763f963fa,
  0x63fb63fc63fe640364046406640764086409640a640d640e6411641264156416641764186419,
  0x641a641d641f6422642364246425642764286429642b642e642f643064316432643364356436,
  0x643764386439643b643c643e6440644264436449644b644c644d644e644f6450645164536455,
  0x645664576459645a645b645c645d645f64606461646264636464646564666468646a646b646c,
  0x646e646f64706471647264736474647564766477647b647c647d647e647f6480648164836486,
  0x64886489648a648b648c648d648e648f64906493649464976498649a649b649c649d649f64a0,
  0x64a164a264a364a564a664a764a864aa64ab64af64b164b264b364b464b664b964bb64bd64be,
  0x64bf64c164c364c464c664c764c864c964ca64cb64cc64cf64d164d364d464d564d664d964da,
  -- 94
  0x64db64dc64dd64df64e064e164e364e564e764e864e964ea64eb64ec64ed64ee64ef64f064f1,
  0x64f264f364f464f564f664f764f864f964fa64fb64fc64fd64fe64ff65016502650365046505,
  0x650665076508650a650b650c650d650e650f65106511651365146515651665176519651a651b,
  0x651c651d651e651f652065216522652365246526652765286529652a652c652d653065316532,
  0x65336537653a653c653d6540654165426543654465466547654a654b654d654e655065526553,
  0x655465576558655a655c655f6560656165646565656765686569656a656d656e656f65716573,
  0x6575657665786579657a657b657c657d657e657f658065816582658365846585658665886589,
  0x658a658d658e658f65926594659565966598659a659d659e65a065a265a365a665a865aa65ac,
  0x65ae65b165b265b365b465b565b665b765b865ba65bb65be65bf65c065c265c765c865c965ca,
  0x65cd65d065d165d365d465d565d865d965da65db65dc65dd65de65df65e165e365e465ea65eb,
  -- 95
  0x65f265f365f465f565f865f965fb65fc65fd65fe65ff660166046605660766086609660b660d,
  0x661066116612661666176618661a661b661c661e662166226623662466266629662a662b662c,
  0x662e663066326633663766386639663a663b663d663f66406642664466456646664766486649,
  0x664a664d664e6650665166586659665b665c665d665e666066626663666566676669666a666b,
  0x666c666d667166726673667566786679667b667c667d667f6680668166836685668666886689,
  0x668a668b668d668e668f6690669266936694669566986699669a669b669c669e669f66a066a1,
  0x66a266a366a466a566a666a966aa66ab66ac66ad66af66b066b166b266b366b566b666b766b8,
  0x66ba66bb66bc66bd66bf66c066c166c266c366c466c566c666c766c866c966ca66cb66cc66cd,
  0x66ce66cf66d066d166d266d366d466d566d666d766d866da66de66df66e066e166e266e366e4,
  0x66e566e766e866ea66eb66ec66ed66ee66ef66f166f566f666f866fa66fb66fd670167026703,
  -- 96
  0x6704670567066707670c670e670f671167126713671667186719671a671c671e672067216722,
  0x67236724672567276729672e6730673267336736673767386739673b673c673e673f67416744,
  0x67456747674a674b674d675267546755675767586759675a675b675d67626763676467666767,
  0x676b676c676e67716774677667786779677a677b677d678067826783678567866788678a678c,
  0x678d678e678f679167926793679467966799679b679f67a067a167a467a667a967ac67ae67b1,
  0x67b267b467b967ba67bb67bc67bd67be67bf67c067c267c567c667c767c867c967ca67cb67cc,
  0x67cd67ce67d567d667d767db67df67e167e367e467e667e767e867ea67eb67ed67ee67f267f5,
  0x67f667f767f867f967fa67fb67fc67fe68016802680368046806680d68106812681468156818,
  0x6819681a681b681c681e681f68206822682368246825682668276828682b682c682d682e682f,
  0x68306831683468356836683a683b683f6847684b684d684f68526856685768586859685a685b,
  -- 97
  0x685c685d685e685f686a686c686d686e686f6870687168726873687568786879687a687b687c,
  0x687d687e687f688068826884688768886889688a688b688c688d688e68906891689268946895,
  0x689668986899689a689b689c689d689e689f68a068a168a368a468a568a968aa68ab68ac68ae,
  0x68b168b268b468b668b768b868b968ba68bb68bc68bd68be68bf68c168c368c468c568c668c7,
  0x68c868ca68cc68ce68cf68d068d168d368d468d668d768d968db68dc68dd68de68df68e168e2,
  0x68e468e568e668e768e868e968ea68eb68ec68ed68ef68f268f368f468f668f768f868fb68fd,
  0x68fe68ff69006902690369046906690769086909690a690c690f691169136914691569166917,
  0x69186919691a691b691c691d691e69216922692369256926692769286929692a692b692c692e,
  0x692f6931693269336935693669376938693a693b693c693e6940694169436944694569466947,
  0x69486949694a694b694c694d694e694f69506951695269536955695669586959695b695c695f,
  -- 98
  0x6961696269646965696769686969696a696c696d696f697069726973697469756976697a697b,
  0x697d697e697f698169836985698a698b698c698e698f6990699169926993699669976999699a,
  0x699d699e699f69a069a169a269a369a469a569a669a969aa69ac69ae69af69b069b269b369b5,
  0x69b669b869b969ba69bc69bd69be69bf69c069c269c369c469c569c669c769c869c969cb69cd,
  0x69cf69d169d269d369d569d669d769d869d969da69dc69dd69de69e169e269e369e469e569e6,
  0x69e769e869e969ea69eb69ec69ee69ef69f069f169f369f469f569f669f769f869f969fa69fb,
  0x69fc69fe6a006a016a026a036a046a056a066a076a086a096a0b6a0c6a0d6a0e6a0f6a106a11,
  0x6a126a136a146a156a166a196a1a6a1b6a1c6a1d6a1e6a206a226a236a246a256a266a276a29,
  0x6a2b6a2c6a2d6a2e6a306a326a336a346a366a376a386a396a3a6a3b6a3c6a3f6a406a416a42,
  0x6a436a456a466a486a496a4a6a4b6a4c6a4d6a4e6a4f6a516a526a536a546a556a566a576a5a,
  -- 99
  0x6a5c6a5d6a5e6a5f6a606a626a636a646a666a676a686a696a6a6a6b6a6c6a6d6a6e6a6f6a70,
  0x6a726a736a746a756a766a776a786a7a6a7b6a7d6a7e6a7f6a816a826a836a856a866a876a88,
  0x6a896a8a6a8b6a8c6a8d6a8f6a926a936a946a956a966a986a996a9a6a9b6a9c6a9d6a9e6a9f,
  0x6aa16aa26aa36aa46aa56aa66aa76aa86aaa6aad6aae6aaf6ab06ab16ab26ab36ab46ab56ab6,
  0x6ab76ab86ab96aba6abb6abc6abd6abe6abf6ac06ac16ac26ac36ac46ac56ac66ac76ac86ac9,
  0x6aca6acb6acc6acd6ace6acf6ad06ad16ad26ad36ad46ad56ad66ad76ad86ad96ada6adb6adc,
  0x6add6ade6adf6ae06ae16ae26ae36ae46ae56ae66ae76ae86ae96aea6aeb6aec6aed6aee6aef,
  0x6af06af16af26af36af46af56af66af76af86af96afa6afb6afc6afd6afe6aff6b006b016b02,
  0x6b036b046b056b066b076b086b096b0a6b0b6b0c6b0d6b0e6b0f6b106b116b126b136b146b15,
  0x6b166b176b186b196b1a6b1b6b1c6b1d6b1e6b1f6b256b266b286b296b2a6b2b6b2c6b2d6b2e,
  -- 9A
  0x6b2f6b306b316b336b346b356b366b386b3b6b3c6b3d6b3f6b406b416b426b446b456b486b4a,
  0x6b4b6b4d6b4e6b4f6b506b516b526b536b546b556b566b576b586b5a6b5b6b5c6b5d6b5e6b5f,
  0x6b606b616b686b696b6b6b6c6b6d6b6e6b6f6b706b716b726b736b746b756b766b776b786b7a,
  0x6b7d6b7e6b7f6b806b856b886b8c6b8e6b8f6b906b916b946b956b976b986b996b9c6b9d6b9e,
  0x6b9f6ba06ba26ba36ba46ba56ba66ba76ba86ba96bab6bac6bad6bae6baf6bb06bb16bb26bb6,
  0x6bb86bb96bba6bbb6bbc6bbd6bbe6bc06bc36bc46bc66bc76bc86bc96bca6bcc6bce6bd06bd1,
  0x6bd86bda6bdc6bdd6bde6bdf6be06be26be36be46be56be66be76be86be96bec6bed6bee6bf0,
  0x6bf16bf26bf46bf66bf76bf86bfa6bfb6bfc6bfe6bff6c006c016c026c036c046c086c096c0a,
  0x6c0b6c0c6c0e6c126c176c1c6c1d6c1e6c206c236c256c2b6c2c6c2d6c316c336c366c376c39,
  0x6c3a6c3b6c3c6c3e6c3f6c436c446c456c486c4b6c4c6c4d6c4e6c4f6c516c526c536c566c58,
  -- 9B
  0x6c596c5a6c626c636c656c666c676c6b6c6c6c6d6c6e6c6f6c716c736c756c776c786c7a6c7b,
  0x6c7c6c7f6c806c846c876c8a6c8b6c8d6c8e6c916c926c956c966c976c986c9a6c9c6c9d6c9e,
  0x6ca06ca26ca86cac6caf6cb06cb46cb56cb66cb76cba6cc06cc16cc26cc36cc66cc76cc86ccb,
  0x6ccd6cce6ccf6cd16cd26cd86cd96cda6cdc6cdd6cdf6ce46ce66ce76ce96cec6ced6cf26cf4,
  0x6cf96cff6d006d026d036d056d066d086d096d0a6d0d6d0f6d106d116d136d146d156d166d18,
  0x6d1c6d1d6d1f6d206d216d226d236d246d266d286d296d2c6d2d6d2f6d306d346d366d376d38,
  0x6d3a6d3f6d406d426d446d496d4c6d506d556d566d576d586d5b6d5d6d5f6d616d626d646d65,
  0x6d676d686d6b6d6c6d6d6d706d716d726d736d756d766d796d7a6d7b6d7d6d7e6d7f6d806d81,
  0x6d836d846d866d876d8a6d8b6d8d6d8f6d906d926d966d976d986d996d9a6d9c6da26da56dac,
  0x6dad6db06db16db36db46db66db76db96dba6dbb6dbc6dbd6dbe6dc16dc26dc36dc86dc96dca,
  -- 9C
  0x6dcd6dce6dcf6dd06dd26dd36dd46dd56dd76dda6ddb6ddc6ddf6de26de36de56de76de86de9,
  0x6dea6ded6def6df06df26df46df56df66df86dfa6dfd6dfe6dff6e006e016e026e036e046e06,
  0x6e076e086e096e0b6e0f6e126e136e156e186e196e1b6e1c6e1e6e1f6e226e266e276e286e2a,
  0x6e2c6e2e6e306e316e336e356e366e376e396e3b6e3c6e3d6e3e6e3f6e406e416e426e456e46,
  0x6e476e486e496e4a6e4b6e4c6e4f6e506e516e526e556e576e596e5a6e5c6e5d6e5e6e606e61,
  0x6e626e636e646e656e666e676e686e696e6a6e6c6e6d6e6f6e706e716e726e736e746e756e76,
  0x6e776e786e796e7a6e7b6e7c6e7d6e806e816e826e846e876e886e8a6e8b6e8c6e8d6e8e6e91,
  0x6e926e936e946e956e966e976e996e9a6e9b6e9d6e9e6ea06ea16ea36ea46ea66ea86ea96eab,
  0x6eac6ead6eae6eb06eb36eb56eb86eb96ebc6ebe6ebf6ec06ec36ec46ec56ec66ec86ec96eca,
  0x6ecc6ecd6ece6ed06ed26ed66ed86ed96edb6edc6edd6ee36ee76eea6eeb6eec6eed6eee6eef,
  -- 9D
  0x6ef06ef16ef26ef36ef56ef66ef76ef86efa6efb6efc6efd6efe6eff6f006f016f036f046f05,
  0x6f076f086f0a6f0b6f0c6f0d6f0e6f106f116f126f166f176f186f196f1a6f1b6f1c6f1d6f1e,
  0x6f1f6f216f226f236f256f266f276f286f2c6f2e6f306f326f346f356f376f386f396f3a6f3b,
  0x6f3c6f3d6f3f6f406f416f426f436f446f456f486f496f4a6f4c6f4e6f4f6f506f516f526f53,
  0x6f546f556f566f576f596f5a6f5b6f5d6f5f6f606f616f636f646f656f676f686f696f6a6f6b,
  0x6f6c6f6f6f706f716f736f756f766f776f796f7b6f7d6f7e6f7f6f806f816f826f836f856f86,
  0x6f876f8a6f8b6f8f6f906f916f926f936f946f956f966f976f986f996f9a6f9b6f9d6f9e6f9f,
  0x6fa06fa26fa36fa46fa56fa66fa86fa96faa6fab6fac6fad6fae6faf6fb06fb16fb26fb46fb5,
  0x6fb76fb86fba6fbb6fbc6fbd6fbe6fbf6fc16fc36fc46fc56fc66fc76fc86fca6fcb6fcc6fcd,
  0x6fce6fcf6fd06fd36fd46fd56fd66fd76fd86fd96fda6fdb6fdc6fdd6fdf6fe26fe36fe46fe5,
  -- 9E
  0x6fe66fe76fe86fe96fea6feb6fec6fed6ff06ff16ff26ff36ff46ff56ff66ff76ff86ff96ffa,
  0x6ffb6ffc6ffd6ffe6fff7000700170027003700470057006700770087009700a700b700c700d,
  0x700e700f701070127013701470157016701770187019701c701d701e701f7020702170227024,
  0x70257026702770287029702a702b702c702d702e702f70307031703270337034703670377038,
  0x703a703b703c703d703e703f7040704170427043704470457046704770487049704a704b704d,
  0x704e7050705170527053705470557056705770587059705a705b705c705d705f706070617062,
  0x7063706470657066706770687069706a706e707170727073707470777079707a707b707d7081,
  0x708270837084708670877088708b708c708d708f70907091709370977098709a709b709e709f,
  0x70a070a170a270a370a470a570a670a770a870a970aa70b070b270b470b570b670ba70be70bf,
  0x70c470c570c670c770c970cb70cc70cd70ce70cf70d070d170d270d370d470d570d670d770da,
  -- 9F
  0x70dc70dd70de70e070e170e270e370e570ea70ee70f070f170f270f370f470f570f670f870fa,
  0x70fb70fc70fe70ff710071017102710371047105710671077108710b710c710d710e710f7111,
  0x711271147117711b711c711d711e711f712071217122712371247125712771287129712a712b,
  0x712c712d712e7132713371347135713771387139713a713b713c713d713e713f714071417142,
  0x714371447146714771487149714b714d714f7150715171527153715471557156715771587159,
  0x715a715b715d715f716071617162716371657169716a716b716c716d716f7170717171747175,
  0x717671777179717b717c717e717f718071817182718371857186718771887189718b718c718d,
  0x718e7190719171927193719571967197719a719b719c719d719e71a171a271a371a471a571a6,
  0x71a771a971aa71ab71ad71ae71af71b071b171b271b471b671b771b871ba71bb71bc71bd71be,
  0x71bf71c071c171c271c471c571c671c771c871c971ca71cb71cc71cd71cf71d071d171d271d3,
  -- A0
  0x71d671d771d871d971da71db71dc71dd71de71df71e171e271e371e471e671e871e971ea71eb,
  0x71ec71ed71ef71f071f171f271f371f471f571f671f771f871fa71fb71fc71fd71fe71ff7200,
  0x72017202720372047205720772087209720a720b720c720d720e720f72107211721272137214,
  0x72157216721772187219721a721b721c721e721f722072217222722372247225722672277229,
  0x722b722d722e722f723272337234723a723c723e72407241724272437244724572467249724a,
  0x724b724e724f7250725172537254725572577258725a725c725e72607263726472657268726a,
  0x726b726c726d7270727172737274727672777278727b727c727d728272837285728672877288,
  0x7289728c728e729072917293729472957296729772987299729a729b729c729d729e72a072a1,
  0x72a272a372a472a572a672a772a872a972aa72ab72ae72b172b272b372b572ba72bb72bc72bd,
  0x72be72bf72c072c572c672c772c972ca72cb72cc72cf72d172d372d472d572d672d872da72db,
  -- A1
  0xe4c6e4c7e4c8e4c9e4cae4cbe4cce4cde4cee4cfe4d0e4d1e4d2e4d3e4d4e4d5e4d6e4d7e4d8,
  0xe4d9e4dae4dbe4dce4dde4dee4dfe4e0e4e1e4e2e4e3e4e4e4e5e4e6e4e7e4e8e4e9e4eae4eb,
  0xe4ece4ede4eee4efe4f0e4f1e4f2e4f3e4f4e4f5e4f6e4f7e4f8e4f9e4fae4fbe4fce4fde4fe,
  0xe4ffe500e501e502e503e504e505e506e507e508e509e50ae50be50ce50de50ee50fe510e511,
  0xe512e513e514e515e516e517e518e519e51ae51be51ce51de51ee51fe520e521e522e523e524,
  0xe52530003001300200b702c902c700a8300330052014ff5e2016202620182019201c201d3014,
  0x301530083009300a300b300c300d300e300f301630173010301100b100d700f7223622272228,
  0x2211220f222a222922082237221a22a52225222023122299222b222e2261224c2248223d221d,
  0x2260226e226f22642265221e223522342642264000b0203220332103ff0400a4ffe0ffe12030,
  0x00a721162606260525cb25cf25ce25c725c625a125a025b325b2203b21922190219121933013,
  -- A2
  0xe526e527e528e529e52ae52be52ce52de52ee52fe530e531e532e533e534e535e536e537e538,
  0xe539e53ae53be53ce53de53ee53fe540e541e542e543e544e545e546e547e548e549e54ae54b,
  0xe54ce54de54ee54fe550e551e552e553e554e555e556e557e558e559e55ae55be55ce55de55e,
  0xe55fe560e561e562e563e564e565e566e567e568e569e56ae56be56ce56de56ee56fe570e571,
  0xe572e573e574e575e576e577e578e579e57ae57be57ce57de57ee57fe580e581e582e583e584,
  0xe5852170217121722173217421752176217721782179e766e767e768e769e76ae76b24882489,
  0x248a248b248c248d248e248f2490249124922493249424952496249724982499249a249b2474,
  0x24752476247724782479247a247b247c247d247e247f24802481248224832484248524862487,
  0x246024612462246324642465246624672468246920ace76d3220322132223223322432253226,
  0x322732283229e76ee76f2160216121622163216421652166216721682169216a216be770e771,
  -- A3
  0xe586e587e588e589e58ae58be58ce58de58ee58fe590e591e592e593e594e595e596e597e598,
  0xe599e59ae59be59ce59de59ee59fe5a0e5a1e5a2e5a3e5a4e5a5e5a6e5a7e5a8e5a9e5aae5ab,
  0xe5ace5ade5aee5afe5b0e5b1e5b2e5b3e5b4e5b5e5b6e5b7e5b8e5b9e5bae5bbe5bce5bde5be,
  0xe5bfe5c0e5c1e5c2e5c3e5c4e5c5e5c6e5c7e5c8e5c9e5cae5cbe5cce5cde5cee5cfe5d0e5d1,
  0xe5d2e5d3e5d4e5d5e5d6e5d7e5d8e5d9e5dae5dbe5dce5dde5dee5dfe5e0e5e1e5e2e5e3e5e4,
  0x3000ff01ff02ff03ffe5ff05ff06ff07ff08ff09ff0aff0bff0cff0dff0eff0fff10ff11ff12,
  0xff13ff14ff15ff16ff17ff18ff19ff1aff1bff1cff1dff1eff1fff20ff21ff22ff23ff24ff25,
  0xff26ff27ff28ff29ff2aff2bff2cff2dff2eff2fff30ff31ff32ff33ff34ff35ff36ff37ff38,
  0xff39ff3aff3bff3cff3dff3eff3fff40ff41ff42ff43ff44ff45ff46ff47ff48ff49ff4aff4b,
  0xff4cff4dff4eff4fff50ff51ff52ff53ff54ff55ff56ff57ff58ff59ff5aff5bff5cff5dffe3,
  -- A4
  0xe5e6e5e7e5e8e5e9e5eae5ebe5ece5ede5eee5efe5f0e5f1e5f2e5f3e5f4e5f5e5f6e5f7e5f8,
  0xe5f9e5fae5fbe5fce5fde5fee5ffe600e601e602e603e604e605e606e607e608e609e60ae60b,
  0xe60ce60de60ee60fe610e611e612e613e614e615e616e617e618e619e61ae61be61ce61de61e,
  0xe61fe620e621e622e623e624e625e626e627e628e629e62ae62be62ce62de62ee62fe630e631,
  0xe632e633e634e635e636e637e638e639e63ae63be63ce63de63ee63fe640e641e642e643e644,
  0xe645304130423043304430453046304730483049304a304b304c304d304e304f305030513052,
  0x3053305430553056305730583059305a305b305c305d305e305f306030613062306330643065,
  0x3066306730683069306a306b306c306d306e306f307030713072307330743075307630773078,
  0x3079307a307b307c307d307e307f3080308130823083308430853086308730883089308a308b,
  0x308c308d308e308f3090309130923093e772e773e774e775e776e777e778e779e77ae77be77c,
  -- A5
  0xe646e647e648e649e64ae64be64ce64de64ee64fe650e651e652e653e654e655e656e657e658,
  0xe659e65ae65be65ce65de65ee65fe660e661e662e663e664e665e666e667e668e669e66ae66b,
  0xe66ce66de66ee66fe670e671e672e673e674e675e676e677e678e679e67ae67be67ce67de67e,
  0xe67fe680e681e682e683e684e685e686e687e688e689e68ae68be68ce68de68ee68fe690e691,
  0xe692e693e694e695e696e697e698e699e69ae69be69ce69de69ee69fe6a0e6a1e6a2e6a3e6a4,
  0xe6a530a130a230a330a430a530a630a730a830a930aa30ab30ac30ad30ae30af30b030b130b2,
  0x30b330b430b530b630b730b830b930ba30bb30bc30bd30be30bf30c030c130c230c330c430c5,
  0x30c630c730c830c930ca30cb30cc30cd30ce30cf30d030d130d230d330d430d530d630d730d8,
  0x30d930da30db30dc30dd30de30df30e030e130e230e330e430e530e630e730e830e930ea30eb,
  0x30ec30ed30ee30ef30f030f130f230f330f430f530f6e77de77ee77fe780e781e782e783e784,
  -- A6
  0xe6a6e6a7e6a8e6a9e6aae6abe6ace6ade6aee6afe6b0e6b1e6b2e6b3e6b4e6b5e6b6e6b7e6b8,
  0xe6b9e6bae6bbe6bce6bde6bee6bfe6c0e6c1e6c2e6c3e6c4e6c5e6c6e6c7e6c8e6c9e6cae6cb,
  0xe6cce6cde6cee6cfe6d0e6d1e6d2e6d3e6d4e6d5e6d6e6d7e6d8e6d9e6dae6dbe6dce6dde6de,
  0xe6dfe6e0e6e1e6e2e6e3e6e4e6e5e6e6e6e7e6e8e6e9e6eae6ebe6ece6ede6eee6efe6f0e6f1,
  0xe6f2e6f3e6f4e6f5e6f6e6f7e6f8e6f9e6fae6fbe6fce6fde6fee6ffe700e701e702e703e704,
  0xe705039103920393039403950396039703980399039a039b039c039d039e039f03a003a103a3,
  0x03a403a503a603a703a803a9e785e786e787e788e789e78ae78be78c03b103b203b303b403b5,
  0x03b603b703b803b903ba03bb03bc03bd03be03bf03c003c103c303c403c503c603c703c803c9,
  0xfe10fe12fe11fe13fe14fe15fe16fe35fe36fe39fe3afe3ffe40fe3dfe3efe41fe42fe43fe44,
  0xfe17fe18fe3bfe3cfe37fe38fe31fe19fe33fe34e797e798e799e79ae79be79ce79de79ee79f,
  -- A7
  0xe706e707e708e709e70ae70be70ce70de70ee70fe710e711e712e713e714e715e716e717e718,
  0xe719e71ae71be71ce71de71ee71fe720e721e722e723e724e725e726e727e728e729e72ae72b,
  0xe72ce72de72ee72fe730e731e732e733e734e735e736e737e738e739e73ae73be73ce73de73e,
  0xe73fe740e741e742e743e744e745e746e747e748e749e74ae74be74ce74de74ee74fe750e751,
  0xe752e753e754e755e756e757e758e759e75ae75be75ce75de75ee75fe760e761e762e763e764,
  0xe76504100411041204130414041504010416041704180419041a041b041c041d041e041f0420,
  0x042104220423042404250426042704280429042a042b042c042d042e042fe7a0e7a1e7a2e7a3,
  0xe7a4e7a5e7a6e7a7e7a8e7a9e7aae7abe7ace7ade7ae04300431043204330434043504510436,
  0x043704380439043a043b043c043d043e043f0440044104420443044404450446044704480449,
  0x044a044b044c044d044e044fe7afe7b0e7b1e7b2e7b3e7b4e7b5e7b6e7b7e7b8e7b9e7bae7bb,
  -- A8
  0x02ca02cb02d920132015202520352105210921962197219821992215221f2223225222662267,
  0x22bf2550255125522553255425552556255725582559255a255b255c255d255e255f25602561,
  0x25622563256425652566256725682569256a256b256c256d256e256f25702571257225732581,
  0x25822583258425852586258725882589258a258b258c258d258e258f25932594259525bc25bd,
  0x25e225e325e425e5260922953012301d301ee7bce7bde7bee7bfe7c0e7c1e7c2e7c3e7c4e7c5,
  0xe7c6010100e101ce00e0011300e9011b00e8012b00ed01d000ec014d00f301d200f2016b00fa,
  0x01d400f901d601d801da01dc00fc00ea02511e3f0144014801f90261e7c9e7cae7cbe7cc3105,
  0x3106310731083109310a310b310c310d310e310f311031113112311331143115311631173118,
  0x3119311a311b311c311d311e311f3120312131223123312431253126312731283129e7cde7ce,
  0xe7cfe7d0e7d1e7d2e7d3e7d4e7d5e7d6e7d7e7d8e7d9e7dae7dbe7dce7dde7dee7dfe7e0e7e1,
  -- A9
  0x30213022302330243025302630273028302932a3338e338f339c339d339e33a133c433ce33d1,
  0x33d233d5fe30ffe2ffe4e7e221213231e7e32010e7e4e7e5e7e630fc309b309c30fd30fe3006,
  0x309d309efe49fe4afe4bfe4cfe4dfe4efe4ffe50fe51fe52fe54fe55fe56fe57fe59fe5afe5b,
  0xfe5cfe5dfe5efe5ffe60fe61fe62fe63fe64fe65fe66fe68fe69fe6afe6b303e2ff02ff12ff2,
  0x2ff32ff42ff52ff62ff72ff82ff92ffa2ffb3007e7f4e7f5e7f6e7f7e7f8e7f9e7fae7fbe7fc,
  0xe7fde7fee7ffe8002500250125022503250425052506250725082509250a250b250c250d250e,
  0x250f2510251125122513251425152516251725182519251a251b251c251d251e251f25202521,
  0x25222523252425252526252725282529252a252b252c252d252e252f25302531253225332534,
  0x25352536253725382539253a253b253c253d253e253f25402541254225432544254525462547,
  0x25482549254a254be801e802e803e804e805e806e807e808e809e80ae80be80ce80de80ee80f,
  -- AA
  0x72dc72dd72df72e272e372e472e572e672e772ea72eb72f572f672f972fd72fe72ff73007302,
  0x730473057306730773087309730b730c730d730f731073117312731473187319731a731f7320,
  0x73237324732673277328732d732f73307332733373357336733a733b733c733d734073417342,
  0x7343734473457346734773487349734a734b734c734e734f7351735373547355735673587359,
  0x735a735b735c735d735e735f736173627363736473657366736773687369736a736b736e7370,
  0x7371e000e001e002e003e004e005e006e007e008e009e00ae00be00ce00de00ee00fe010e011,
  0xe012e013e014e015e016e017e018e019e01ae01be01ce01de01ee01fe020e021e022e023e024,
  0xe025e026e027e028e029e02ae02be02ce02de02ee02fe030e031e032e033e034e035e036e037,
  0xe038e039e03ae03be03ce03de03ee03fe040e041e042e043e044e045e046e047e048e049e04a,
  0xe04be04ce04de04ee04fe050e051e052e053e054e055e056e057e058e059e05ae05be05ce05d,
  -- AB
  0x73727373737473757376737773787379737a737b737c737d737f738073817382738373857386,
  0x7388738a738c738d738f73907392739373947395739773987399739a739c739d739e73a073a1,
  0x73a373a473a573a673a773a873aa73ac73ad73b173b473b573b673b873b973bc73bd73be73bf,
  0x73c173c373c473c573c673c773cb73cc73ce73d273d373d473d573d673d773d873da73db73dc,
  0x73dd73df73e173e273e373e473e673e873ea73eb73ec73ee73ef73f073f173f373f473f573f6,
  0x73f7e05ee05fe060e061e062e063e064e065e066e067e068e069e06ae06be06ce06de06ee06f,
  0xe070e071e072e073e074e075e076e077e078e079e07ae07be07ce07de07ee07fe080e081e082,
  0xe083e084e085e086e087e088e089e08ae08be08ce08de08ee08fe090e091e092e093e094e095,
  0xe096e097e098e099e09ae09be09ce09de09ee09fe0a0e0a1e0a2e0a3e0a4e0a5e0a6e0a7e0a8,
  0xe0a9e0aae0abe0ace0ade0aee0afe0b0e0b1e0b2e0b3e0b4e0b5e0b6e0b7e0b8e0b9e0bae0bb,
  -- AC
  0x73f873f973fa73fb73fc73fd73fe73ff740074017402740474077408740b740c740d740e7411,
  0x74127413741474157416741774187419741c741d741e741f742074217423742474277429742b,
  0x742d742f74317432743774387439743a743b743d743e743f7440744274437444744574467447,
  0x74487449744a744b744c744d744e744f7450745174527453745474567458745d746074617462,
  0x7463746474657466746774687469746a746b746c746e746f7471747274737474747574787479,
  0x747ae0bce0bde0bee0bfe0c0e0c1e0c2e0c3e0c4e0c5e0c6e0c7e0c8e0c9e0cae0cbe0cce0cd,
  0xe0cee0cfe0d0e0d1e0d2e0d3e0d4e0d5e0d6e0d7e0d8e0d9e0dae0dbe0dce0dde0dee0dfe0e0,
  0xe0e1e0e2e0e3e0e4e0e5e0e6e0e7e0e8e0e9e0eae0ebe0ece0ede0eee0efe0f0e0f1e0f2e0f3,
  0xe0f4e0f5e0f6e0f7e0f8e0f9e0fae0fbe0fce0fde0fee0ffe100e101e102e103e104e105e106,
  0xe107e108e109e10ae10be10ce10de10ee10fe110e111e112e113e114e115e116e117e118e119,
  -- AD
  0x747b747c747d747f748274847485748674887489748a748c748d748f74917492749374947495,
  0x7496749774987499749a749b749d749f74a074a174a274a374a474a574a674aa74ab74ac74ad,
  0x74ae74af74b074b174b274b374b474b574b674b774b874b974bb74bc74bd74be74bf74c074c1,
  0x74c274c374c474c574c674c774c874c974ca74cb74cc74cd74ce74cf74d074d174d374d474d5,
  0x74d674d774d874d974da74db74dd74df74e174e574e774e874e974ea74eb74ec74ed74f074f1,
  0x74f2e11ae11be11ce11de11ee11fe120e121e122e123e124e125e126e127e128e129e12ae12b,
  0xe12ce12de12ee12fe130e131e132e133e134e135e136e137e138e139e13ae13be13ce13de13e,
  0xe13fe140e141e142e143e144e145e146e147e148e149e14ae14be14ce14de14ee14fe150e151,
  0xe152e153e154e155e156e157e158e159e15ae15be15ce15de15ee15fe160e161e162e163e164,
  0xe165e166e167e168e169e16ae16be16ce16de16ee16fe170e171e172e173e174e175e176e177,
  -- AE
  0x74f374f574f874f974fa74fb74fc74fd74fe750075017502750375057506750775087509750a,
  0x750b750c750e751075127514751575167517751b751d751e7520752175227523752475267527,
  0x752a752e753475367539753c753d753f7541754275437544754675477549754a754d75507551,
  0x755275537555755675577558755d755e755f75607561756275637564756775687569756b756c,
  0x756d756e756f757075717573757575767577757a757b757c757d757e75807581758275847585,
  0x7587e178e179e17ae17be17ce17de17ee17fe180e181e182e183e184e185e186e187e188e189,
  0xe18ae18be18ce18de18ee18fe190e191e192e193e194e195e196e197e198e199e19ae19be19c,
  0xe19de19ee19fe1a0e1a1e1a2e1a3e1a4e1a5e1a6e1a7e1a8e1a9e1aae1abe1ace1ade1aee1af,
  0xe1b0e1b1e1b2e1b3e1b4e1b5e1b6e1b7e1b8e1b9e1bae1bbe1bce1bde1bee1bfe1c0e1c1e1c2,
  0xe1c3e1c4e1c5e1c6e1c7e1c8e1c9e1cae1cbe1cce1cde1cee1cfe1d0e1d1e1d2e1d3e1d4e1d5,
  -- AF
  0x75887589758a758c758d758e7590759375957598759b759c759e75a275a675a775a875a975aa,
  0x75ad75b675b775ba75bb75bf75c075c175c675cb75cc75ce75cf75d075d175d375d775d975da,
  0x75dc75dd75df75e075e175e575e975ec75ed75ee75ef75f275f375f575f675f775f875fa75fb,
  0x75fd75fe760276047606760776087609760b760d760e760f76117612761376147616761a761c,
  0x761d761e7621762376277628762c762e762f76317632763676377639763a763b763d76417642,
  0x7644e1d6e1d7e1d8e1d9e1dae1dbe1dce1dde1dee1dfe1e0e1e1e1e2e1e3e1e4e1e5e1e6e1e7,
  0xe1e8e1e9e1eae1ebe1ece1ede1eee1efe1f0e1f1e1f2e1f3e1f4e1f5e1f6e1f7e1f8e1f9e1fa,
  0xe1fbe1fce1fde1fee1ffe200e201e202e203e204e205e206e207e208e209e20ae20be20ce20d,
  0xe20ee20fe210e211e212e213e214e215e216e217e218e219e21ae21be21ce21de21ee21fe220,
  0xe221e222e223e224e225e226e227e228e229e22ae22be22ce22de22ee22fe230e231e232e233,
  -- B0
  0x76457646764776487649764a764b764e764f76507651765276537655765776587659765a765b,
  0x765d765f766076617662766476657666766776687669766a766c766d766e7670767176727673,
  0x76747675767676777679767a767c767f76807681768376857689768a768c768d768f76907692,
  0x7694769576977698769a769b769c769d769e769f76a076a176a276a376a576a676a776a876a9,
  0x76aa76ab76ac76ad76af76b076b376b576b676b776b876b976ba76bb76bc76bd76be76c076c1,
  0x76c3554a963f57c3632854ce550954c07691764c853c77ee827e788d72319698978d6c285b89,
  0x4ffa630966975cb880fa684880ae660276ce51f9655671ac7ff1888450b2596561ca6fb382ad,
  0x634c625253ed54277b06516b75a45df462d48dcb9776628a8019575d97387f627238767d67cf,
  0x767e64464f708d2562dc7a17659173ed642c6273822c9881677f7248626e62cc4f3474e3534a,
  0x529e7eca90a65e2e6886699c81807ed168d278c5868c9551508d8c2482de80de530589125265,
  -- B1
  0x76c476c776c976cb76cc76d376d576d976da76dc76dd76de76e076e176e276e376e476e676e7,
  0x76e876e976ea76eb76ec76ed76f076f376f576f676f776fa76fb76fd76ff7700770277037705,
  0x7706770a770c770e770f771077117712771377147715771677177718771b771c771d771e7721,
  0x7723772477257727772a772b772c772e773077317732773377347739773b773d773e773f7742,
  0x77447745774677487749774a774b774c774d774e774f77527753775477557756775777587759,
  0x775c858496f94fdd582199715b9d62b162a566b48c799c8d7206676f789160b2535153178f88,
  0x80cc8d1d94a1500d72c8590760eb711988ab595482ef672c7b285d297ef7752d6cf58e668ff8,
  0x903c9f3b6bd491197b145f7c78a784d6853d6bd56bd96bd65e015e8775f995ed655d5f0a5fc5,
  0x8f9f58c181c2907f965b97ad8fb97f168d2c62414fbf53d8535e8fa88fa98fab904d68075f6a,
  0x819888689cd6618b522b762a5f6c658c6fd26ee85bbe6448517551b067c44e1979c9997c70b3,
  -- B2
  0x775d775e775f7760776477677769776a776d776e776f77707771777277737774777577767777,
  0x7778777a777b777c7781778277837786778777887789778a778b778f77907793779477957796,
  0x779777987799779a779b779c779d779e77a177a377a477a677a877ab77ad77ae77af77b177b2,
  0x77b477b677b777b877b977ba77bc77be77c077c177c277c377c477c577c677c777c877c977ca,
  0x77cb77cc77ce77cf77d077d177d277d377d477d577d677d877d977da77dd77de77df77e077e1,
  0x77e475c55e7673bb83e064ad62e894b56ce2535a52c3640f94c27b944f2f5e1b82368116818a,
  0x6e246cca9a736355535c54fa886557e04e0d5e036b657c3f90e8601664e6731c88c16750624d,
  0x8d22776c8e2991c75f6983dc8521991053c286956b8b60ed60e8707f82cd82314ed36ca785cf,
  0x64cd7cd969fd66f9834953957b564fa7518c6d4b5c428e6d63d253c9832c833667e578b4643d,
  0x5bdf5c945dee8be762c667f48c7a640063ba8749998b8c177f2094f24ea7961098a4660c7316,
  -- B3
  0x77e677e877ea77ef77f077f177f277f477f577f777f977fa77fb77fc78037804780578067807,
  0x7808780a780b780e780f7810781378157819781b781e78207821782278247828782a782b782e,
  0x782f78317832783378357836783d783f7841784278437844784678487849784a784b784d784f,
  0x78517853785478587859785a785b785c785e785f786078617862786378647865786678677868,
  0x7869786f787078717872787378747875787678787879787a787b787d787e787f788078817882,
  0x7883573a5c1d5e38957f507f80a05382655e7545553150218d856284949e671d56326f6e5de2,
  0x543570928f66626f64a463a35f7b6f8890f481e38fb05c1866685ff16c8996488d81886c6491,
  0x79f057ce6a59621054484e587a0b60e96f848bda627f901e9a8b79e4540375f4630153196c60,
  0x8fdf5f1b9a70803b9f7f4f885c3a8d647fc565a570bd514551b2866b5d075ba062bd916c7574,
  0x8e0c7a2061017b794ec77ef877854e1181ed521d51fa6a7153a88e87950496cf6ec19664695a,
  -- B4
  0x7884788578867888788a788b788f789078927894789578967899789d789e78a078a278a478a6,
  0x78a878a978aa78ab78ac78ad78ae78af78b578b678b778b878ba78bb78bc78bd78bf78c078c2,
  0x78c378c478c678c778c878cc78cd78ce78cf78d178d278d378d678d778d878da78db78dc78dd,
  0x78de78df78e078e178e278e378e478e578e678e778e978ea78eb78ed78ee78ef78f078f178f3,
  0x78f578f678f878f978fb78fc78fd78fe78ff79007902790379047906790779087909790a790b,
  0x790c784050a877d7641089e6590463e35ddd7a7f693d4f20823955984e3275ae7a975e625e8a,
  0x95ef521b5439708a6376952457826625693f918755076df37eaf882262337ef075b5832878c1,
  0x96cc8f9e614874f78bcd6b64523a8d506b21806a847156f153064ece4e1b51d17c97918b7c07,
  0x4fc38e7f7be17a9c64675d1450ac810676017cb96dec7fe067515b585bf878cb64ae641363aa,
  0x632b9519642d8fbe7b5476296253592754466b7950a362345e266b864ee38d37888b5f85902e,
  -- B5
  0x790d790e790f791079117912791479157916791779187919791a791b791c791d791f79207921,
  0x7922792379257926792779287929792a792b792c792d792e792f793079317932793379357936,
  0x793779387939793d793f79427943794479457947794a794b794c794d794e794f795079517952,
  0x795479557958795979617963796479667969796a796b796c796e797079717972797379747975,
  0x79767979797b797c797d797e797f798279837986798779887989798b798c798d798e79907991,
  0x79926020803d62c54e39535590f863b880c665e66c2e4f4660ee6de18bde5f3986cb5f536321,
  0x515a83616863520063638e4850125c9b79775bfc52307a3b60bc905376d75fb75f9776848e6c,
  0x706f767b7b4977aa51f3909358244f4e6ef48fea654c7b1b72c46da47fdf5ae162b55e955730,
  0x84827b2c5e1d5f1f90127f1498a063826ec7789870b95178975b57ab75354f4375385e9760e6,
  0x59606dc06bbf788953fc96d551cb52016389540a94938c038dcc7239789f87768fed8c0d53e0,
  -- B6
  0x7993799479957996799779987999799b799c799d799e799f79a079a179a279a379a479a579a6,
  0x79a879a979aa79ab79ac79ad79ae79af79b079b179b279b479b579b679b779b879bc79bf79c2,
  0x79c479c579c779c879ca79cc79ce79cf79d079d379d479d679d779d979da79db79dc79dd79de,
  0x79e079e179e279e579e879ea79ec79ee79f179f279f379f479f579f679f779f979fa79fc79fe,
  0x79ff7a017a047a057a077a087a097a0a7a0c7a0f7a107a117a127a137a157a167a187a197a1b,
  0x7a1c4e0176ef53ee948998769f0e952d5b9a8ba24e224e1c51ac846361c252a8680b4f97606b,
  0x51bb6d1e515c6296659796618c46901775d890fd77636bd2728a72ec8bfb583577798d4c675c,
  0x9540809a5ea66e2159927aef77ed953b6bb565ad7f0e58065151961f5bf958a954288e726566,
  0x987f56e4949d76fe9041638754c6591a593a579b8eb267358dfa8235524160f0581586fe5ce8,
  0x9e454fc4989d8bb95a2560765384627c904f9102997f6069800c513f80335c1499756d314e8c,
  -- B7
  0x7a1d7a1f7a217a227a247a257a267a277a287a297a2a7a2b7a2c7a2d7a2e7a2f7a307a317a32,
  0x7a347a357a367a387a3a7a3e7a407a417a427a437a447a457a477a487a497a4a7a4b7a4c7a4d,
  0x7a4e7a4f7a507a527a537a547a557a567a587a597a5a7a5b7a5c7a5d7a5e7a5f7a607a617a62,
  0x7a637a647a657a667a677a687a697a6a7a6b7a6c7a6d7a6e7a6f7a717a727a737a757a7b7a7c,
  0x7a7d7a7e7a827a857a877a897a8a7a8b7a8c7a8e7a8f7a907a937a947a997a9a7a9b7a9e7aa1,
  0x7aa28d3053d17f5a7b4f4f104e4f96006cd573d085e95e06756a7ffb6a0a77fe94927e4151e1,
  0x70e653cd8fd483038d2972af996d6cdb574a82b365b980aa623f963259a84eff8bbf7eba653e,
  0x83f2975e556198de80a5532a8bfd542080ba5e9f6cb88d3982ac915a54296c1b52067eb7575f,
  0x711a6c7e7c89594b4efd5fff61247caa4e305c0167ab87025cf0950b98ce75af70fd902251af,
  0x7f1d8bbd594951e44f5b5426592b657780a45b75627662c28f905e456c1f7b264f0f4fd8670d,
  -- B8
  0x7aa37aa47aa77aa97aaa7aab7aae7aaf7ab07ab17ab27ab47ab57ab67ab77ab87ab97aba7abb,
  0x7abc7abd7abe7ac07ac17ac27ac37ac47ac57ac67ac77ac87ac97aca7acc7acd7ace7acf7ad0,
  0x7ad17ad27ad37ad47ad57ad77ad87ada7adb7adc7add7ae17ae27ae47ae77ae87ae97aea7aeb,
  0x7aec7aee7af07af17af27af37af47af57af67af77af87afb7afc7afe7b007b017b027b057b07,
  0x7b097b0c7b0d7b0e7b107b127b137b167b177b187b1a7b1c7b1d7b1f7b217b227b237b277b29,
  0x7b2d6d6e6daa798f88b15f17752b629a8f854fef91dc65a7812f81515e9c81508d74526f8986,
  0x8d4b590d50854ed8961c723681798d1f5bcc8ba3964459877f1a54905676560e8be565396982,
  0x949976d66e895e727518674667d17aff809d8d76611f79c665628d635188521a94a27f38809b,
  0x7eb25c976e2f67607bd9768b9ad8818f7f947cd5641e95507a3f544a54e56b4c640162089e3d,
  0x80f3759952729769845b683c86e49601969494ec4e2a54047ed968398ddf801566f45e9a7fb9,
  -- B9
  0x7b2f7b307b327b347b357b367b377b397b3b7b3d7b3f7b407b417b427b437b447b467b487b4a,
  0x7b4d7b4e7b537b557b577b597b5c7b5e7b5f7b617b637b647b657b667b677b687b697b6a7b6b,
  0x7b6c7b6d7b6f7b707b737b747b767b787b7a7b7c7b7d7b7f7b817b827b837b847b867b877b88,
  0x7b897b8a7b8b7b8c7b8e7b8f7b917b927b937b967b987b997b9a7b9b7b9e7b9f7ba07ba37ba4,
  0x7ba57bae7baf7bb07bb27bb37bb57bb67bb77bb97bba7bbb7bbc7bbd7bbe7bbf7bc07bc27bc3,
  0x7bc457c2803f68975de5653b529f606d9f9a4f9b8eac516c5bab5f135de96c5e62f18d215171,
  0x94a952fe6c9f82df72d757a267848d2d591f8f9c83c754957b8d4f306cbd5b6459d19f1353e4,
  0x86ca9aa88c3780a16545987e56fa96c7522e74dc52505be1630289024e5662d0602a68fa5173,
  0x5b9851a089c27ba199867f5060ef704c8d2f51495e7f901b747089c4572d78455f529f9f95fa,
  0x8f689b3c8be17678684267dc8dea8d35523d8f8a6eda68cd950590ed56fd679c88f98fc754c8,
  -- BA
  0x7bc57bc87bc97bca7bcb7bcd7bce7bcf7bd07bd27bd47bd57bd67bd77bd87bdb7bdc7bde7bdf,
  0x7be07be27be37be47be77be87be97beb7bec7bed7bef7bf07bf27bf37bf47bf57bf67bf87bf9,
  0x7bfa7bfb7bfd7bff7c007c017c027c037c047c057c067c087c097c0a7c0d7c0e7c107c117c12,
  0x7c137c147c157c177c187c197c1a7c1b7c1c7c1d7c1e7c207c217c227c237c247c257c287c29,
  0x7c2b7c2c7c2d7c2e7c2f7c307c317c327c337c347c357c367c377c397c3a7c3b7c3c7c3d7c3e,
  0x7c429ab85b696d776c264ea55bb39a87916361a890af97e9542b6db55bd251fd558a7f557ff0,
  0x64bc634d65f161be608d710a6c576c49592f676d822a58d5568e8c6a6beb90dd597d801753f7,
  0x6d695475559d837783cf683879be548c4f55540876d28c8996026cb36db88d6b89109e648d3a,
  0x563f9ed175d55f8872e0606854fc4ea86a2a886160528f7054c470d886799e3f6d2a5b8f5f18,
  0x7ea255894faf7334543c539a5019540e547c4e4e5ffd745a58f6846b80e1877472d07cca6e56,
  -- BB
  0x7c437c447c457c467c477c487c497c4a7c4b7c4c7c4e7c4f7c507c517c527c537c547c557c56,
  0x7c577c587c597c5a7c5b7c5c7c5d7c5e7c5f7c607c617c627c637c647c657c667c677c687c69,
  0x7c6a7c6b7c6c7c6d7c6e7c6f7c707c717c727c757c767c777c787c797c7a7c7e7c7f7c807c81,
  0x7c827c837c847c857c867c877c887c8a7c8b7c8c7c8d7c8e7c8f7c907c937c947c967c997c9a,
  0x7c9b7ca07ca17ca37ca67ca77ca87ca97cab7cac7cad7caf7cb07cb47cb57cb67cb77cb87cba,
  0x7cbb5f27864e552c62a44e926caa623782b154d7534e733e6ed1753b521253168bdd69d05f8a,
  0x60006dee574f6b2273af68538fd87f13636260a3552475ea8c6271156da35ba65e7b8352614c,
  0x9ec478fa87577c27768751f060f6714c66435e4c604d8c0e707063258f895fbd606286d456de,
  0x6bc160946167534960e066668d3f79fd4f1a70e96c478bb38bf27ed88364660f5a5a9b426d51,
  0x6df78c416d3b4f19706b83b7621660d1970d8d27797851fb573e57fa673a75787a3d79ef7b95,
  -- BC
  0x7cbf7cc07cc27cc37cc47cc67cc97ccb7cce7ccf7cd07cd17cd27cd37cd47cd87cda7cdb7cdd,
  0x7cde7ce17ce27ce37ce47ce57ce67ce77ce97cea7ceb7cec7ced7cee7cf07cf17cf27cf37cf4,
  0x7cf57cf67cf77cf97cfa7cfc7cfd7cfe7cff7d007d017d027d037d047d057d067d077d087d09,
  0x7d0b7d0c7d0d7d0e7d0f7d107d117d127d137d147d157d167d177d187d197d1a7d1b7d1c7d1d,
  0x7d1e7d1f7d217d237d247d257d267d287d297d2a7d2c7d2d7d2e7d307d317d327d337d347d35,
  0x7d36808c99658ff96fc08ba59e2159ec7ee97f095409678168d88f917c4d96c653ca602575be,
  0x6c7253735ac97ea7632451e0810a5df184df628051805b634f0e796d524260b86d4e5bc45bc2,
  0x8ba18bb065e25fcc964559937ee77eaa560967b759394f735bb652a0835a988a8d3e753294be,
  0x50477a3c4ef767b69a7e5ac16b7c76d1575a5c167b3a95f4714e517c80a9827059787f048327,
  0x68c067ec78b1787762e363617b804fed526a51cf835069db92748df58d3189c1952e7bad4ef6,
  -- BD
  0x7d377d387d397d3a7d3b7d3c7d3d7d3e7d3f7d407d417d427d437d447d457d467d477d487d49,
  0x7d4a7d4b7d4c7d4d7d4e7d4f7d507d517d527d537d547d557d567d577d587d597d5a7d5b7d5c,
  0x7d5d7d5e7d5f7d607d617d627d637d647d657d667d677d687d697d6a7d6b7d6c7d6d7d6f7d70,
  0x7d717d727d737d747d757d767d787d797d7a7d7b7d7c7d7d7d7e7d7f7d807d817d827d837d84,
  0x7d857d867d877d887d897d8a7d8b7d8c7d8d7d8e7d8f7d907d917d927d937d947d957d967d97,
  0x7d98506582305251996f6e106e856da75efa50f559dc5c066d466c5f7586848b686859568bb2,
  0x53209171964d854969127901712680f64ea490ca6d479a845a0756bc640594f077eb4fa5811a,
  0x72e189d2997a7f347ede527f655991758f7f8f8353eb7a9663ed63a5768679f888579636622a,
  0x52ab8282685467706377776b7aed6d017ed389e359d0621285c982a5754c501f4ecb75a58beb,
  0x5c4a5dfe7b4b65a491d14eca6d25895f7d2795264ec58c288fdb9773664b79818fd170ec6d78,
  -- BE
  0x7d997d9a7d9b7d9c7d9d7d9e7d9f7da07da17da27da37da47da57da77da87da97daa7dab7dac,
  0x7dad7daf7db07db17db27db37db47db57db67db77db87db97dba7dbb7dbc7dbd7dbe7dbf7dc0,
  0x7dc17dc27dc37dc47dc57dc67dc77dc87dc97dca7dcb7dcc7dcd7dce7dcf7dd07dd17dd27dd3,
  0x7dd47dd57dd67dd77dd87dd97dda7ddb7ddc7ddd7dde7ddf7de07de17de27de37de47de57de6,
  0x7de77de87de97dea7deb7dec7ded7dee7def7df07df17df27df37df47df57df67df77df87df9,
  0x7dfa5c3d52b283465162830e775b66769cb84eac60ca7cbe7cb37ecf4e958b66666f98889759,
  0x5883656c955c5f8475c997567adf7ade51c070af7a9863ea7a767ea0739697ed4e4570784e5d,
  0x915253a9655165e781fc8205548e5c31759a97a062d872d975bd5c459a7983ca5c40548077e9,
  0x4e3e6cae805a62d2636e5de851778ddd8e1e952f4ff153e560e770ac526763509e435a1f5026,
  0x773753777ee26485652b628963985014723589c951b38bc07edd574783cc94a7519b541b5cfb,
  -- BF
  0x7dfb7dfc7dfd7dfe7dff7e007e017e027e037e047e057e067e077e087e097e0a7e0b7e0c7e0d,
  0x7e0e7e0f7e107e117e127e137e147e157e167e177e187e197e1a7e1b7e1c7e1d7e1e7e1f7e20,
  0x7e217e227e237e247e257e267e277e287e297e2a7e2b7e2c7e2d7e2e7e2f7e307e317e327e33,
  0x7e347e357e367e377e387e397e3a7e3c7e3d7e3e7e3f7e407e427e437e447e457e467e487e49,
  0x7e4a7e4b7e4c7e4d7e4e7e4f7e507e517e527e537e547e557e567e577e587e597e5a7e5b7e5c,
  0x7e5d4fca7ae36d5a90e19a8f55805496536154af5f0063e9697751ef6168520a582a52d8574e,
  0x780d770b5eb761777ce0625b62974ea27095800362f770e49760577782db67ef68f578d59897,
  0x79d158f354b353ef6e34514b523b5ba28bfe80af554357a660735751542d7a7a60505b5463a7,
  0x62a053e362635bc767af54ed7a9f82e691775e9388e4593857ae630e8de880ef57577b774fa9,
  0x5feb5bbd6b3e53217b5072c2684677ff773665f751b54e8f76d45cbf7aa58475594e9b415080,
  -- C0
  0x7e5e7e5f7e607e617e627e637e647e657e667e677e687e697e6a7e6b7e6c7e6d7e6e7e6f7e70,
  0x7e717e727e737e747e757e767e777e787e797e7a7e7b7e7c7e7d7e7e7e7f7e807e817e837e84,
  0x7e857e867e877e887e897e8a7e8b7e8c7e8d7e8e7e8f7e907e917e927e937e947e957e967e97,
  0x7e987e997e9a7e9c7e9d7e9e7eae7eb47ebb7ebc7ed67ee47eec7ef97f0a7f107f1e7f377f39,
  0x7f3b7f3c7f3d7f3e7f3f7f407f417f437f467f477f487f497f4a7f4b7f4c7f4d7f4e7f4f7f52,
  0x7f53998861276e8357646606634656f062ec62695ed39614578362c955878721814a8fa35566,
  0x83b167658d5684dd5a6a680f62e67bee961151706f9c8c3063fd89c861d27f0670c26ee57405,
  0x699472fc5eca90ce67176d6a635e52b3726280014f6c59e5916a70d96d9d52d24e5096f7956d,
  0x857e78ca7d2f5121579264c2808b7c7b6cea68f1695e51b7539868a872819ece7bf172f879bb,
  0x6f137406674e91cc9ca4793c83898354540f68174e3d538952b1783e5386522950884f8b4fd0,
  -- C1
  0x7f567f597f5b7f5c7f5d7f5e7f607f637f647f657f667f677f6b7f6c7f6d7f6f7f707f737f75,
  0x7f767f777f787f7a7f7b7f7c7f7d7f7f7f807f827f837f847f857f867f877f887f897f8b7f8d,
  0x7f8f7f907f917f927f937f957f967f977f987f997f9b7f9c7fa07fa27fa37fa57fa67fa87fa9,
  0x7faa7fab7fac7fad7fae7fb17fb37fb47fb57fb67fb77fba7fbb7fbe7fc07fc27fc37fc47fc6,
  0x7fc77fc87fc97fcb7fcd7fcf7fd07fd17fd27fd37fd67fd77fd97fda7fdb7fdc7fdd7fde7fe2,
  0x7fe375e27acb7c926ca596b6529b748354e94fe9805483b28fde95705ec9601c6d9f5e18655b,
  0x813894fe604b70bc7ec37cae51c968817cb1826f4e248f8691cf667e4eae8c0564a9804a50da,
  0x759771ce5be58fbd6f664e86648295635ed66599521788c270c852a3730e7433679778f79716,
  0x4e3490bb9cde6dcb51db8d41541d62ce73b283f196f69f8494c34f367f9a51cc707596755cad,
  0x988653e64ee46e9c740969b4786b998f7559521876246d4167f3516d9f99804b54997b3c7abf,
  -- C2
  0x7fe47fe77fe87fea7feb7fec7fed7fef7ff27ff47ff57ff67ff77ff87ff97ffa7ffd7ffe7fff,
  0x8002800780088009800a800e800f80118013801a801b801d801e801f802180238024802b802c,
  0x802d802e802f8030803280348039803a803c803e8040804180448045804780488049804e804f,
  0x8050805180538055805680578059805b805c805d805e805f8060806180628063806480658066,
  0x80678068806b806c806d806e806f807080728073807480758076807780788079807a807b807c,
  0x807d9686578462e29647697c5a0464027bd36f0f964b82a6536298855e90708963b35364864f,
  0x9c819e93788c97328def8d429e7f6f5e79845f559646622e9a74541594dd4fa365c55c655c61,
  0x7f1586516c2f5f8b73876ee47eff5ce6631b5b6a6ee653754e7163a0756562a18f6e4f264ed1,
  0x6ca67eb68bba841d87ba7f57903b95237ba99aa188f8843d6d1b9a867edc59889ebb739b7801,
  0x86829a6c9a82561b541757cb4e709ea653568fc881097792999286ee6ee1851366fc61626f2b,
  -- C3
  0x807e8081808280858088808a808d808e808f8090809180928094809580978099809e80a380a6,
  0x80a780a880ac80b080b380b580b680b880b980bb80c580c780c880c980ca80cb80cf80d080d1,
  0x80d280d380d480d580d880df80e080e280e380e680ee80f580f780f980fb80fe80ff81008101,
  0x81038104810581078108810b810c811581178119811b811c811d811f81208121812281238124,
  0x81258126812781288129812a812b812d812e813081338134813581378139813a813b813c813d,
  0x813f8c298292832b76f26c135fd983bd732b8305951a6bdb77db94c6536f830251925e3d8c8c,
  0x8d384e4873ab679a68859176970971646ca177095a9295416bcf7f8e66275bd059b95a9a95e8,
  0x95f74eec840c84996aac76df9530731b68a65b5f772f919a97617cdc8ff78c1c5f257c7379d8,
  0x89c56ccc871c5bc65e4268c977207ef55195514d52c95a297f05976282d763cf778485d079d2,
  0x6e3a5e9959998511706d6c1162bf76bf654f60af95fd660e879f9e2394ed540d547d8c2c6478,
  -- C4
  0x81408141814281438144814581478149814d814e814f8152815681578158815b815c815d815e,
  0x815f816181628163816481668168816a816b816c816f81728173817581768177817881818183,
  0x81848185818681878189818b818c818d818e81908192819381948195819681978199819a819e,
  0x819f81a081a181a281a481a581a781a981ab81ac81ad81ae81af81b081b181b281b481b581b6,
  0x81b781b881b981bc81bd81be81bf81c481c581c781c881c981cb81cd81ce81cf81d081d181d2,
  0x81d3647986116a21819c78e864699b5462b9672b83ab58a89ed86cab6f205bde964c8c0b725f,
  0x67d062c772614ea959c66bcd589366ae5e5552df6155672876ee776672677a4662ff54ea5450,
  0x94a090a35a1c7eb36c164e435976801059485357753796be56ca63208111607c95f96dd65462,
  0x998151855ae980fd59ae9713502a6ce55c3c62df4f60533f817b90066eba852b62c85e7478be,
  0x64b5637b5ff55a18917f9e1f5c3f634f80425b7d556e954a954d6d8560a867e072de51dd5b81,
  -- C5
  0x81d481d581d681d781d881d981da81db81dc81dd81de81df81e081e181e281e481e581e681e8,
  0x81e981eb81ee81ef81f081f181f281f581f681f781f881f981fa81fd81ff8203820782088209,
  0x820a820b820e820f8211821382158216821782188219821a821d822082248225822682278229,
  0x822e8232823a823c823d823f8240824182428243824582468248824a824c824d824e82508251,
  0x8252825382548255825682578259825b825c825d825e82608261826282638264826582668267,
  0x826962e76cde725b626d94ae7ebd81136d53519c5f04597452aa6012597366968650759f632a,
  0x61e67cef8bfa54e66b279e256bb485d5545550766ca4556a8db4722c5e156015743662cd6392,
  0x724c5f986e436d3e65006f5876d878d076fc7554522453db4e535e9e65c1802a80d6629b5486,
  0x522870ae888d8dd16ce1547880da57f988f48d54966a914d4f696c9b55b776c6783062a870f9,
  0x6f8e5f6d84ec68da787c7bf781a8670b9e4f636778b0576f78129739627962ab528874356bd7,
  -- C6
  0x826a826b826c826d82718275827682778278827b827c8280828182838285828682878289828c,
  0x82908293829482958296829a829b829e82a082a282a382a782b282b582b682ba82bb82bc82bf,
  0x82c082c282c382c582c682c982d082d682d982da82dd82e282e782e882e982ea82ec82ed82ee,
  0x82f082f282f382f582f682f882fa82fc82fd82fe82ff8300830a830b830d8310831283138316,
  0x83188319831d831e831f83208321832283238324832583268329832a832e833083328337833b,
  0x833d5564813e75b276ae533975de50fb5c418b6c7bc7504f72479a9798d86f0274e279686487,
  0x77a562fc98918d2b54c180584e52576a82f9840d5e7351ed74f68bc45c4f57616cfc98875a46,
  0x78349b448feb7c955256625194fa4ec68386846183e984b257d467345703666e6d668c3166dd,
  0x7011671f6b3a6816621a59bb4e0351c46f0667d26c8f517668cb59476b6775665d0e81109f50,
  0x65d7794879419a918d775c824e5e4f01542f5951780c56686c148fc45f036c7d6ce38bab6390,
  -- C7
  0x833e833f83418342834483458348834a834b834c834d834e835383558356835783588359835d,
  0x836283708371837283738374837583768379837a837e837f8380838183828383838483878388,
  0x838a838b838c838d838f8390839183948395839683978399839a839d839f83a183a283a383a4,
  0x83a583a683a783ac83ad83ae83af83b583bb83be83bf83c283c383c483c683c883c983cb83cd,
  0x83ce83d083d183d283d383d583d783d983da83db83de83e283e383e483e683e783e883eb83ec,
  0x83ed60706d3d72756266948e94c553438fc17b7e4edf8c264e7e9ed494b194b3524d6f5c9063,
  0x6d458c3458115d4c6b206b4967aa545b81547f8c589985375f3a62a26a479539657260846865,
  0x77a74e544fa85de7979864ac7fd85ced4fcf7a8d520783044e14602f7a8394a64fb54eb279e6,
  0x743452e482b964d279bd5bdd6c8197528f7b6c22503e537f6e0564ce66746c3060c598778bf7,
  0x5e86743c7a7779cb4e1890b174036c4256da914b6cc58d8b533a86c666f28eaf5c489a716e20,
  -- C8
  0x83ee83ef83f383f483f583f683f783fa83fb83fc83fe83ff840084028405840784088409840a,
  0x84108412841384148415841684178419841a841b841e841f84208421842284238429842a842b,
  0x842c842d842e842f84308432843384348435843684378439843a843b843e843f844084418442,
  0x844384448445844784488449844a844b844c844d844e844f8450845284538454845584568458,
  0x845d845e845f8460846284648465846684678468846a846e846f84708472847484778479847b,
  0x847c53d65a369f8b8da353bb570898a76743919b6cc9516875ca62f372ac5238529d7f3a7094,
  0x763853749e4a69b7786e96c088d97fa4713671c3518967d374e458e4651856b78ba999766270,
  0x7ed560f970ed58ec4ec14eba5fcd97e74efb8ba45203598a7eab62544ecd65e5620e833884c9,
  0x8363878d71946eb65bb97ed2519763c967d480898339881551125b7a59828fb14e736c5d5165,
  0x89258f6f962e854a745e951095f06da682e55f3164926d128428816e9cc3585e8d5b4e0953c1,
  -- C9
  0x847d847e847f848084818483848484858486848a848d848f8490849184928493849484958496,
  0x8498849a849b849d849e849f84a084a284a384a484a584a684a784a884a984aa84ab84ac84ad,
  0x84ae84b084b184b384b584b684b784bb84bc84be84c084c284c384c584c684c784c884cb84cc,
  0x84ce84cf84d284d484d584d784d884d984da84db84dc84de84e184e284e484e784e884e984ea,
  0x84eb84ed84ee84ef84f184f284f384f484f584f684f784f884f984fa84fb84fd84fe85008501,
  0x85024f1e6563685155d34e2764149a9a626b5ac2745f82726da968ee50e7838e780267405239,
  0x6c997eb150bb5565715e7b5b665273ca82eb67495c715220717d886b95ea965564c58d6181b3,
  0x55846c5562477f2e58924f2455468d4f664c4e0a5c1a88f368a2634e7a0d70e7828d52fa97f6,
  0x5c1154e890b57ecd59628d4a86c7820c820d8d6664445c0461516d89793e8bbe78377533547b,
  0x4f388eab6df15a207ec5795e6c885ba15a76751a80be614e6e1758f0751f7525727253477ef3,
  -- CA
  0x8503850485058506850785088509850a850b850d850e850f8510851285148515851685188519,
  0x851b851c851d851e852085228523852485258526852785288529852a852d852e852f85308531,
  0x85328533853485358536853e853f8540854185428544854585468547854b854c854d854e854f,
  0x85508551855285538554855585578558855a855b855c855d855f856085618562856385658566,
  0x85678569856a856b856c856d856e856f8570857185738575857685778578857c857d857f8580,
  0x8581770176db526980dc57235e08593172ee65bd6e7f8bd75c388671534177f362fe65f64ec0,
  0x98df86805b9e8bc653f277e24f7f5c4e9a7659cb5f0f793a58eb4e1667ff4e8b62ed8a93901d,
  0x52bf662f55dc566c90024ed54f8d91ca99706c0f5e0260435ba489c68bd56536624b99965b88,
  0x5bff6388552e53d77626517d852c67a268b36b8a62928f9353d482126dd1758f4e668d4e5b70,
  0x719f85af669166d97f7287009ecd9f205c5e672f8ff06811675f620d7ad658855eb665706f31,
  -- CB
  0x85828583858685888589858a858b858c858d858e859085918592859385948595859685978598,
  0x8599859a859d859e859f85a085a185a285a385a585a685a785a985ab85ac85ad85b185b285b3,
  0x85b485b585b685b885ba85bb85bc85bd85be85bf85c085c285c385c485c585c685c785c885ca,
  0x85cb85cc85cd85ce85d185d285d485d685d785d885d985da85db85dd85de85df85e085e185e2,
  0x85e385e585e685e785e885ea85eb85ec85ed85ee85ef85f085f185f285f385f485f585f685f7,
  0x85f860555237800d6454887075295e05681362f4971c53cc723d8c016c3477617a0e542e77ac,
  0x987a821c8bf47855671470c165af64955636601d79c153f84e1d6b7b80865bfa55e356db4f3a,
  0x4f3c99725df3677e80386002988290015b8b8bbc8bf5641c825864de55fd82cf91654fd77d20,
  0x901f7c9f50f358516eaf5bbf8bc980839178849c7b97867d968b968f7ee59ad3788e5c817a57,
  0x904296a7795f5b59635f7b0b84d168ad55067f2974107d2295016240584c4ed65b8359795854,
  -- CC
  0x85f985fa85fc85fd85fe860086018602860386048606860786088609860a860b860c860d860e,
  0x860f86108612861386148615861786188619861a861b861c861d861e861f8620862186228623,
  0x8624862586268628862a862b862c862d862e862f863086318632863386348635863686378639,
  0x863a863b863d863e863f8640864186428643864486458646864786488649864a864b864c8652,
  0x865386558656865786588659865b865c865d865f866086618663866486658666866786688669,
  0x866a736d631e8e4b8e0f80ce82d462ac53f06cf0915e592a60016c70574d644a8d2a762b6ee9,
  0x575b6a8075f06f6d8c2d8c0857666bef889278b363a253f970ad6c645858642a580268e0819b,
  0x55107cd650188eba6dcc8d9f70eb638f6d9b6ed47ee68404684390036dd896768ba859577279,
  0x85e4817e75bc8a8a68af52548e22951163d098988e44557c4f5366ff568f60d56d9552435c49,
  0x59296dfb586b7530751c606c82148146631167618fe2773a8df38d3494c15e165385542c70c3,
  -- CD
  0x866d866f867086728673867486758676867786788683868486858686868786888689868e868f,
  0x86908691869286948696869786988699869a869b869e869f86a086a186a286a586a686ab86ad,
  0x86ae86b286b386b786b886b986bb86bc86bd86be86bf86c186c286c386c586c886cc86cd86d2,
  0x86d386d586d686d786da86dc86dd86e086e186e286e386e586e686e786e886ea86eb86ec86ef,
  0x86f586f686f786fa86fb86fc86fd86ff8701870487058706870b870c870e870f871087118714,
  0x87166c405ef7505c4ead5ead633a8247901a6850916e77b3540c94dc5f647ae5687663457b52,
  0x7edf75db507762955934900f51f879c37a8156fe5f9290146d825c60571f541051546e4d56e2,
  0x63a89893817f8715892a9000541e5c6f81c062d6625881319e3596409a6e9a7c692d59a562d3,
  0x553e631654c786d96d3c5a0374e6889c6b6a59168c4c5f2f6e7e73a9987d4e3870f75b8c7897,
  0x633d665a769660cb5b9b5a494e0781556c6a738b4ea167897f515f8065fa671b5fd859845a01,
  -- CE
  0x8719871b871d871f87208724872687278728872a872b872c872d872f87308732873387358736,
  0x87388739873a873c873d8740874187428743874487458746874a874b874d874f875087518752,
  0x8754875587568758875a875b875c875d875e875f876187628766876787688769876a876b876c,
  0x876d876f8771877287738775877787788779877a877f878087818784878687878789878a878c,
  0x878e878f87908791879287948795879687988799879a879b879c879d879e87a087a187a287a3,
  0x87a45dcd5fae537197e68fdd684556f4552f60df4e3a6f4d7ef482c7840e59d44f1f4f2a5c3e,
  0x7eac672a851a5473754f80c355829b4f4f4d6e2d8c135c096170536b761f6e29868a658795fb,
  0x7eb9543b7a337d0a95ee55e17fc174ee631d87176da17a9d621165a1536763e16c835deb545c,
  0x94a84e4c6c618bec5c4b65e0829c68a7543e54346bcb6b664e9463425348821e4f0d4fae575e,
  0x620a96fe6664726952ff52a1609f8bef661471996790897f785277fd6670563b54389521727a,
  -- CF
  0x87a587a687a787a987aa87ae87b087b187b287b487b687b787b887b987bb87bc87be87bf87c1,
  0x87c287c387c487c587c787c887c987cc87cd87ce87cf87d087d487d587d687d787d887d987da,
  0x87dc87dd87de87df87e187e287e387e487e687e787e887e987eb87ec87ed87ef87f087f187f2,
  0x87f387f487f587f687f787f887fa87fb87fc87fd87ff88008801880288048805880688078808,
  0x8809880b880c880d880e880f8810881188128814881788188819881a881c881d881e881f8820,
  0x88237a00606f5e0c6089819d591560dc718470ef6eaa6c5072806a8488ad5e2d4e605ab3559c,
  0x94e36d177cfb9699620f7ec6778e867e5323971e8f9666875ce14fa072ed4e0b53a6590f5413,
  0x6380952851484ed99c9c7ea454b88d248854823795f26d8e5f265acc663e966973b0732e53bf,
  0x817a99857fa15baa967796507ebf76f853a2957699997bb189446e584e617fd479658be660f3,
  0x54cd4eab98795df76a6150cf54118c618427785d9704524a54ee56a395006d885bb56dc66653,
  -- D0
  0x882488258826882788288829882a882b882c882d882e882f8830883188338834883588368837,
  0x8838883a883b883d883e883f8841884288438846884788488849884a884b884e884f88508851,
  0x88528853885588568858885a885b885c885d885e885f886088668867886a886d886f88718873,
  0x88748875887688788879887a887b887c88808883888688878889888a888c888e888f88908891,
  0x889388948895889788988899889a889b889d889e889f88a088a188a388a588a688a788a888a9,
  0x88aa5c0f5b5d6821809655787b11654869544e9b6b47874e978b534f631f643a90aa659c80c1,
  0x8c10519968b0537887f961c86cc46cfb8c225c5185aa82af950c6b238f9b65b05ffb5fc34fe1,
  0x8845661f8165732960fa51745211578b5f6290a2884c91925e78674f602759d3514451f680f8,
  0x53086c7996c4718a4f114fee7f9e673d55c5950879c088967ee3589f620c9700865a5618987b,
  0x5f908bb884c4915753d965ed5e8f755c60647d6e5a7f7eea7eed8f6955a75ba360ac65cb7384,
  -- D1
  0x88ac88ae88af88b088b288b388b488b588b688b888b988ba88bb88bd88be88bf88c088c388c4,
  0x88c788c888ca88cb88cc88cd88cf88d088d188d388d688d788da88db88dc88dd88de88e088e1,
  0x88e688e788e988ea88eb88ec88ed88ee88ef88f288f588f688f788fa88fb88fd88ff89008901,
  0x8903890489058906890789088909890b890c890d890e890f891189148915891689178918891c,
  0x891d891e891f89208922892389248926892789288929892c892d892e892f8931893289338935,
  0x89379009766377297eda9774859b5b667a7496ea884052cb718f5faa65ec8be25bfb9a6f5de1,
  0x6b896c5b8bad8baf900a8fc5538b62bc9e269e2d54404e2b82bd7259869c5d1688596daf96c5,
  0x54d14e9a8bb6710954bd960970df6df976d04e25781487125ca95ef68a00989c960e708e6cbf,
  0x594463a9773c884d6f148273583071d5538c781a96c155015f6671305bb48c1a9a8c6b83592e,
  0x9e2f79e76768626c4f6f75a17f8a6d0b96336c274ef075d2517b68376f3e9080817059967476,
  -- D2
  0x89388939893a893b893c893d893e893f89408942894389458946894789488949894a894b894c,
  0x894d894e894f8950895189528953895489558956895789588959895a895b895c895d89608961,
  0x8962896389648965896789688969896a896b896c896d896e896f897089718972897389748975,
  0x8976897789788979897a897c897d897e8980898289848985898789888989898a898b898c898d,
  0x898e898f8990899189928993899489958996899789988999899a899b899c899d899e899f89a0,
  0x89a164475c2790657a918c2359da54ac8200836f898180006930564e8036723791ce51b64e5f,
  0x987563964e1a53f666f3814b591c6db24e0058f9533b63d694f14f9d4f0a8863989059379057,
  0x79fb4eea80f075916c825b9c59e85f5d69058681501a5df24e5977e34ee5827a629166139091,
  0x5c794ebf5f7981c69038808475ab4ea688d4610f6bc55fc64e4976ca6ea28be38bae8c0a8bd1,
  0x5f027ffc7fcc7ece8335836b56e06bb797f3963459fb541f94f66deb5bc5996e5c395f159690,
  -- D3
  0x89a289a389a489a589a689a789a889a989aa89ab89ac89ad89ae89af89b089b189b289b389b4,
  0x89b589b689b789b889b989ba89bb89bc89bd89be89bf89c089c389cd89d389d489d589d789d8,
  0x89d989db89dd89df89e089e189e289e489e789e889e989ea89ec89ed89ee89f089f189f289f4,
  0x89f589f689f789f889f989fa89fb89fc89fd89fe89ff8a018a028a038a048a058a068a088a09,
  0x8a0a8a0b8a0c8a0d8a0e8a0f8a108a118a128a138a148a158a168a178a188a198a1a8a1b8a1c,
  0x8a1d537082f16a315a749e705e947f2883b984248425836787478fce8d6276c85f719896786c,
  0x662054df62e54f6381c375c85eb896cd8e0a86f9548f6cf36d8c6c38607f52c775285e7d4f18,
  0x60a05fe75c24753190ae94c072b96cb96e389149670953cb53f34f5191c98bf153c85e7c8fc2,
  0x6de44e8e76c26986865e611a82064f594fde903e9c7c61096e1d6e1496854e885a3196e84e0e,
  0x5c7f79b95b878bed7fbd738957df828b90c15401904755bb5cea5fa161086b3272f180b28a89,
  -- D4
  0x8a1e8a1f8a208a218a228a238a248a258a268a278a288a298a2a8a2b8a2c8a2d8a2e8a2f8a30,
  0x8a318a328a338a348a358a368a378a388a398a3a8a3b8a3c8a3d8a3f8a408a418a428a438a44,
  0x8a458a468a478a498a4a8a4b8a4c8a4d8a4e8a4f8a508a518a528a538a548a558a568a578a58,
  0x8a598a5a8a5b8a5c8a5d8a5e8a5f8a608a618a628a638a648a658a668a678a688a698a6a8a6b,
  0x8a6c8a6d8a6e8a6f8a708a718a728a738a748a758a768a778a788a7a8a7b8a7c8a7d8a7e8a7f,
  0x8a806d745bd388d598848c6b9a6d9e336e0a51a4514357a38881539f63f48f9556ed54585706,
  0x733f6e907f188fdc82d1613f6028966266f07ea68d8a8dc394a55cb37ca4670860a696058018,
  0x4e9190e75300966851418fd08574915d665597f55b55531d78386742683d54c9707e5bb08f7d,
  0x518d572854b1651266828d5e8d43810f846c906d7cdf51ff85fb67a365e96fa186a48e81566a,
  0x90207682707671e58d2362e952196cfd8d3c600e589e618e66fe8d60624e55b36e23672d8f67,
  -- D5
  0x8a818a828a838a848a858a868a878a888a8b8a8c8a8d8a8e8a8f8a908a918a928a948a958a96,
  0x8a978a988a998a9a8a9b8a9c8a9d8a9e8a9f8aa08aa18aa28aa38aa48aa58aa68aa78aa88aa9,
  0x8aaa8aab8aac8aad8aae8aaf8ab08ab18ab28ab38ab48ab58ab68ab78ab88ab98aba8abb8abc,
  0x8abd8abe8abf8ac08ac18ac28ac38ac48ac58ac68ac78ac88ac98aca8acb8acc8acd8ace8acf,
  0x8ad08ad18ad28ad38ad48ad58ad68ad78ad88ad98ada8adb8adc8add8ade8adf8ae08ae18ae2,
  0x8ae394e195f87728680569a8548b4e4d70b88bc86458658b5b857a84503a5be877bb6be18a79,
  0x7c986cbe76cf65a98f975d2d5c5586386808536062187ad96e5b7efd6a1f7ae05f706f335f20,
  0x638c6da867564e085e108d264ed780c07634969c62db662d627e6cbc8d7571677f6951468087,
  0x53ec906e629854f286f08f998005951785178fd96d5973cd659f771f7504782781fb8d1e9488,
  0x4fa6679575b98bca9707632f9547963584b8632377415f8172f04e896014657462ef6b63653f,
  -- D6
  0x8ae48ae58ae68ae78ae88ae98aea8aeb8aec8aed8aee8aef8af08af18af28af38af48af58af6,
  0x8af78af88af98afa8afb8afc8afd8afe8aff8b008b018b028b038b048b058b068b088b098b0a,
  0x8b0b8b0c8b0d8b0e8b0f8b108b118b128b138b148b158b168b178b188b198b1a8b1b8b1c8b1d,
  0x8b1e8b1f8b208b218b228b238b248b258b278b288b298b2a8b2b8b2c8b2d8b2e8b2f8b308b31,
  0x8b328b338b348b358b368b378b388b398b3a8b3b8b3c8b3d8b3e8b3f8b408b418b428b438b44,
  0x8b455e2775c790d18bc1829d679d652f5431871877e580a281026c414e4b7ec7804c76f4690d,
  0x6b966267503c4f84574063076b628dbe53ea65e87eb85fd7631a63b781f381f47f6e5e1c5cd9,
  0x5236667a79e97a1a8d28709975d46ede6cbb7a924e2d76c55fe0949f88777ec879cd80bf91cd,
  0x4ef24f17821f54685dde6d328bcc7ca58f7480985e1a549276b15b99663c9aa473e0682a86db,
  0x6731732a8bf88bdb90107af970db716e62c477a956314e3b845767f152a986c08d2e94f87b51,
  -- D7
  0x8b468b478b488b498b4a8b4b8b4c8b4d8b4e8b4f8b508b518b528b538b548b558b568b578b58,
  0x8b598b5a8b5b8b5c8b5d8b5e8b5f8b608b618b628b638b648b658b678b688b698b6a8b6b8b6d,
  0x8b6e8b6f8b708b718b728b738b748b758b768b778b788b798b7a8b7b8b7c8b7d8b7e8b7f8b80,
  0x8b818b828b838b848b858b868b878b888b898b8a8b8b8b8c8b8d8b8e8b8f8b908b918b928b93,
  0x8b948b958b968b978b988b998b9a8b9b8b9c8b9d8b9e8b9f8bac8bb18bbb8bc78bd08bea8c09,
  0x8c1e4f4f6ce8795d9a7b6293722a62fd4e1378168f6c64b08d5a7bc668695e8488c55986649e,
  0x58ee72b6690e95258ffd8d5857607f008c0651c6634962d95353684c74228301914c55447740,
  0x707c6d4a517954a88d4459ff6ecb6dc45b5c7d2b4ed47c7d6ed35b5081ea6e0d5b579b0368d5,
  0x8e2a5b977efc603b7eb590b98d70594f63cd79df8db3535265cf79568bc5963b7ec494bb7e82,
  0x5634918967007f6a5c0a907566285de64f5067de505a4f5c57505ea7e810e811e812e813e814,
  -- D8
  0x8c388c398c3a8c3b8c3c8c3d8c3e8c3f8c408c428c438c448c458c488c4a8c4b8c4d8c4e8c4f,
  0x8c508c518c528c538c548c568c578c588c598c5b8c5c8c5d8c5e8c5f8c608c638c648c658c66,
  0x8c678c688c698c6c8c6d8c6e8c6f8c708c718c728c748c758c768c778c7b8c7c8c7d8c7e8c7f,
  0x8c808c818c838c848c868c878c888c8b8c8d8c8e8c8f8c908c918c928c938c958c968c978c99,
  0x8c9a8c9b8c9c8c9d8c9e8c9f8ca08ca18ca28ca38ca48ca58ca68ca78ca88ca98caa8cab8cac,
  0x8cad4e8d4e0c51404e105eff53454e154e984e1e9b325b6c56694e2879ba4e3f53154e47592d,
  0x723b536e6c1056df80e499976bd3777e9f174e364e9f9f104e5c4e694e9382885b5b556c560f,
  0x4ec4538d539d53a353a553ae97658d5d531a53f55326532e533e8d5c5366536352025208520e,
  0x522d5233523f5240524c525e5261525c84af527d528252815290529351827f544ebb4ec34ec9,
  0x4ec24ee84ee14eeb4ede4f1b4ef34f224f644ef54f254f274f094f2b4f5e4f6765384f5a4f5d,
  -- D9
  0x8cae8caf8cb08cb18cb28cb38cb48cb58cb68cb78cb88cb98cba8cbb8cbc8cbd8cbe8cbf8cc0,
  0x8cc18cc28cc38cc48cc58cc68cc78cc88cc98cca8ccb8ccc8ccd8cce8ccf8cd08cd18cd28cd3,
  0x8cd48cd58cd68cd78cd88cd98cda8cdb8cdc8cdd8cde8cdf8ce08ce18ce28ce38ce48ce58ce6,
  0x8ce78ce88ce98cea8ceb8cec8ced8cee8cef8cf08cf18cf28cf38cf48cf58cf68cf78cf88cf9,
  0x8cfa8cfb8cfc8cfd8cfe8cff8d008d018d028d038d048d058d068d078d088d098d0a8d0b8d0c,
  0x8d0d4f5f4f574f324f3d4f764f744f914f894f834f8f4f7e4f7b4faa4f7c4fac4f944fe64fe8,
  0x4fea4fc54fda4fe34fdc4fd14fdf4ff85029504c4ff3502c500f502e502d4ffe501c500c5025,
  0x5028507e504350555048504e506c507b50a550a750a950ba50d6510650ed50ec50e650ee5107,
  0x510b4edd6c3d4f584f654fce9fa06c467c74516e5dfd9ec999985181591452f9530d8a075310,
  0x51eb591951554ea051564eb3886e88a44eb5811488d279805b3488037fb851ab51b151bd51bc,
  -- DA
  0x8d0e8d0f8d108d118d128d138d148d158d168d178d188d198d1a8d1b8d1c8d208d518d528d57,
  0x8d5f8d658d688d698d6a8d6c8d6e8d6f8d718d728d788d798d7a8d7b8d7c8d7d8d7e8d7f8d80,
  0x8d828d838d868d878d888d898d8c8d8d8d8e8d8f8d908d928d938d958d968d978d988d998d9a,
  0x8d9b8d9c8d9d8d9e8da08da18da28da48da58da68da78da88da98daa8dab8dac8dad8dae8daf,
  0x8db08db28db68db78db98dbb8dbd8dc08dc18dc28dc58dc78dc88dc98dca8dcd8dd08dd28dd3,
  0x8dd451c7519651a251a58ba08ba68ba78baa8bb48bb58bb78bc28bc38bcb8bcf8bce8bd28bd3,
  0x8bd48bd68bd88bd98bdc8bdf8be08be48be88be98bee8bf08bf38bf68bf98bfc8bff8c008c02,
  0x8c048c078c0c8c0f8c118c128c148c158c168c198c1b8c188c1d8c1f8c208c218c258c278c2a,
  0x8c2b8c2e8c2f8c328c338c358c365369537a961d962296219631962a963d963c964296499654,
  0x965f9667966c967296749688968d969796b09097909b909d909990ac90a190b490b390b690ba,
  -- DB
  0x8dd58dd88dd98ddc8de08de18de28de58de68de78de98ded8dee8df08df18df28df48df68dfc,
  0x8dfe8dff8e008e018e028e038e048e068e078e088e0b8e0d8e0e8e108e118e128e138e158e16,
  0x8e178e188e198e1a8e1b8e1c8e208e218e248e258e268e278e288e2b8e2d8e308e328e338e34,
  0x8e368e378e388e3b8e3c8e3e8e3f8e438e458e468e4c8e4d8e4e8e4f8e508e538e548e558e56,
  0x8e578e588e5a8e5b8e5c8e5d8e5e8e5f8e608e618e628e638e648e658e678e688e6a8e6b8e6e,
  0x8e7190b890b090cf90c590be90d090c490c790d390e690e290dc90d790db90eb90ef90fe9104,
  0x9122911e91239131912f913991439146520d594252a252ac52ad52be54ff52d052d652f053df,
  0x71ee77cd5ef451f551fc9b2f53b65f01755a5def574c57a957a1587e58bc58c558d15729572c,
  0x572a57335739572e572f575c573b574257695785576b5786577c577b5768576d5776577357ad,
  0x57a4578c57b257cf57a757b4579357a057d557d857da57d957d257b857f457ef57f857e457dd,
  -- DC
  0x8e738e758e778e788e798e7a8e7b8e7d8e7e8e808e828e838e848e868e888e898e8a8e8b8e8c,
  0x8e8d8e8e8e918e928e938e958e968e978e988e998e9a8e9b8e9d8e9f8ea08ea18ea28ea38ea4,
  0x8ea58ea68ea78ea88ea98eaa8ead8eae8eb08eb18eb38eb48eb58eb68eb78eb88eb98ebb8ebc,
  0x8ebd8ebe8ebf8ec08ec18ec28ec38ec48ec58ec68ec78ec88ec98eca8ecb8ecc8ecd8ecf8ed0,
  0x8ed18ed28ed38ed48ed58ed68ed78ed88ed98eda8edb8edc8edd8ede8edf8ee08ee18ee28ee3,
  0x8ee4580b580d57fd57ed5800581e5819584458205865586c58815889589a588099a89f1961ff,
  0x8279827d827f828f828a82a88284828e82918297829982ab82b882be82b082c882ca82e38298,
  0x82b782ae82cb82cc82c182a982b482a182aa829f82c482ce82a482e1830982f782e4830f8307,
  0x82dc82f482d282d8830c82fb82d38311831a83068314831582e082d5831c8351835b835c8308,
  0x8392833c83348331839b835e832f834f83478343835f834083178360832d833a833383668365,
  -- DD
  0x8ee58ee68ee78ee88ee98eea8eeb8eec8eed8eee8eef8ef08ef18ef28ef38ef48ef58ef68ef7,
  0x8ef88ef98efa8efb8efc8efd8efe8eff8f008f018f028f038f048f058f068f078f088f098f0a,
  0x8f0b8f0c8f0d8f0e8f0f8f108f118f128f138f148f158f168f178f188f198f1a8f1b8f1c8f1d,
  0x8f1e8f1f8f208f218f228f238f248f258f268f278f288f298f2a8f2b8f2c8f2d8f2e8f2f8f30,
  0x8f318f328f338f348f358f368f378f388f398f3a8f3b8f3c8f3d8f3e8f3f8f408f418f428f43,
  0x8f448368831b8369836c836a836d836e83b0837883b383b483a083aa8393839c8385837c83b6,
  0x83a9837d83b8837b8398839e83a883ba83bc83c1840183e583d858078418840b83dd83fd83d6,
  0x841c84388411840683d483df840f840383f883f983ea83c583c0842683f083e1845c8451845a,
  0x8459847384878488847a84898478843c844684698476848c848e8431846d84c184cd84d084e6,
  0x84bd84d384ca84bf84ba84e084a184b984b4849784e584e3850c750d853884f08539851f853a,
  -- DE
  0x8f458f468f478f488f498f4a8f4b8f4c8f4d8f4e8f4f8f508f518f528f538f548f558f568f57,
  0x8f588f598f5a8f5b8f5c8f5d8f5e8f5f8f608f618f628f638f648f658f6a8f808f8c8f928f9d,
  0x8fa08fa18fa28fa48fa58fa68fa78faa8fac8fad8fae8faf8fb28fb38fb48fb58fb78fb88fba,
  0x8fbb8fbc8fbf8fc08fc38fc68fc98fca8fcb8fcc8fcd8fcf8fd28fd68fd78fda8fe08fe18fe3,
  0x8fe78fec8fef8ff18ff28ff48ff58ff68ffa8ffb8ffc8ffe8fff90079008900c900e90139015,
  0x90188556853b84ff84fc8559854885688564855e857a77a285438572857b85a485a88587858f,
  0x857985ae859c858585b985b785b085d385c185dc85ff8627860586298616863c5efe5f08593c,
  0x594180375955595a5958530f5c225c255c2c5c34624c626a629f62bb62ca62da62d762ee6322,
  0x62f66339634b634363ad63f66371637a638e63b4636d63ac638a636963ae63bc63f263f863e0,
  0x63ff63c463de63ce645263c663be64456441640b641b6420640c64266421645e6484646d6496,
  -- DF
  0x9019901c902390249025902790289029902a902b902c9030903190329033903490379039903a,
  0x903d903f904090439045904690489049904a904b904c904e9054905590569059905a905c905d,
  0x905e905f906090619064906690679069906a906b906c906f9070907190729073907690779078,
  0x9079907a907b907c907e908190849085908690879089908a908c908d908e908f909090929094,
  0x90969098909a909c909e909f90a090a490a590a790a890a990ab90ad90b290b790bc90bd90bf,
  0x90c0647a64b764b8649964ba64c064d064d764e464e265096525652e5f0b5fd275195f11535f,
  0x53f153fd53e953e853fb541254165406544b5452545354545456544354215457545954235432,
  0x54825494547754715464549a549b548454765466549d54d054ad54c254b454d254a754a654d3,
  0x54d4547254a354d554bb54bf54cc54d954da54dc54a954aa54a454dd54cf54de551b54e75520,
  0x54fd551454f355225523550f55115527552a5567558f55b55549556d55415555553f5550553c,
  -- E0
  0x90c290c390c690c890c990cb90cc90cd90d290d490d590d690d890d990da90de90df90e090e3,
  0x90e490e590e990ea90ec90ee90f090f190f290f390f590f690f790f990fa90fb90fc90ff9100,
  0x9101910391059106910791089109910a910b910c910d910e910f911091119112911391149115,
  0x911691179118911a911b911c911d911f91209121912491259126912791289129912a912b912c,
  0x912d912e91309132913391349135913691379138913a913b913c913d913e913f914091419142,
  0x91445537555655755576557755335530555c558b55d2558355b155b955885581559f557e55d6,
  0x5591557b55df55bd55be5594559955ea55f755c9561f55d155eb55ec55d455e655dd55c455ef,
  0x55e555f255f355cc55cd55e855f555e48f94561e5608560c56015624562355fe56005627562d,
  0x565856395657562c564d56625659565c564c5654568656645671566b567b567c5685569356af,
  0x56d456d756dd56e156f556eb56f956ff5704570a5709571c5e0f5e195e145e115e315e3b5e3c,
  -- E1
  0x9145914791489151915391549155915691589159915b915c915f9160916691679168916b916d,
  0x9173917a917b917c9180918191829183918491869188918a918e918f91939194919591969197,
  0x91989199919c919d919e919f91a091a191a491a591a691a791a891a991ab91ac91b091b191b2,
  0x91b391b691b791b891b991bb91bc91bd91be91bf91c091c191c291c391c491c591c691c891cb,
  0x91d091d291d391d491d591d691d791d891d991da91db91dd91de91df91e091e191e291e391e4,
  0x91e55e375e445e545e5b5e5e5e615c8c5c7a5c8d5c905c965c885c985c995c915c9a5c9c5cb5,
  0x5ca25cbd5cac5cab5cb15ca35cc15cb75cc45cd25ce45ccb5ce55d025d035d275d265d2e5d24,
  0x5d1e5d065d1b5d585d3e5d345d3d5d6c5d5b5d6f5d5d5d6b5d4b5d4a5d695d745d825d995d9d,
  0x8c735db75dc55f735f775f825f875f895f8c5f955f995f9c5fa85fad5fb55fbc88625f6172ad,
  0x72b072b472b772b872c372c172ce72cd72d272e872ef72e972f272f472f7730172f3730372fa,
  -- E2
  0x91e691e791e891e991ea91eb91ec91ed91ee91ef91f091f191f291f391f491f591f691f791f8,
  0x91f991fa91fb91fc91fd91fe91ff9200920192029203920492059206920792089209920a920b,
  0x920c920d920e920f9210921192129213921492159216921792189219921a921b921c921d921e,
  0x921f9220922192229223922492259226922792289229922a922b922c922d922e922f92309231,
  0x92329233923492359236923792389239923a923b923c923d923e923f92409241924292439244,
  0x924572fb731773137321730a731e731d7315732273397325732c733873317350734d73577360,
  0x736c736f737e821b592598e7592459029963996799689969996a996b996c99749977997d9980,
  0x99849987998a998d999099919993999499955e805e915e8b5e965ea55ea05eb95eb55ebe5eb3,
  0x8d535ed25ed15edb5ee85eea81ba5fc45fc95fd65fcf60035fee60045fe15fe45ffe60056006,
  0x5fea5fed5ff8601960356026601b600f600d6029602b600a603f602160786079607b607a6042,
  -- E3
  0x9246924792489249924a924b924c924d924e924f925092519252925392549255925692579258,
  0x9259925a925b925c925d925e925f9260926192629263926492659266926792689269926a926b,
  0x926c926d926e926f927092719272927392759276927792789279927a927b927c927d927e927f,
  0x9280928192829283928492859286928792889289928a928b928c928d928f9290929192929293,
  0x929492959296929792989299929a929b929c929d929e929f92a092a192a292a392a492a592a6,
  0x92a7606a607d6096609a60ad609d60836092608c609b60ec60bb60b160dd60d860c660da60b4,
  0x612061266115612360f46100610e612b614a617561ac619461a761b761d461f55fdd96b395e9,
  0x95eb95f195f395f595f695fc95fe9603960496069608960a960b960c960d960f961296159616,
  0x96179619961a4e2c723f62156c356c546c5c6c4a6ca36c856c906c946c8c6c686c696c746c76,
  0x6c866ca96cd06cd46cad6cf76cf86cf16cd76cb26ce06cd66cfa6ceb6cee6cb16cd36cef6cfe,
  -- E4
  0x92a892a992aa92ab92ac92ad92af92b092b192b292b392b492b592b692b792b892b992ba92bb,
  0x92bc92bd92be92bf92c092c192c292c392c492c592c692c792c992ca92cb92cc92cd92ce92cf,
  0x92d092d192d292d392d492d592d692d792d892d992da92db92dc92dd92de92df92e092e192e2,
  0x92e392e492e592e692e792e892e992ea92eb92ec92ed92ee92ef92f092f192f292f392f492f5,
  0x92f692f792f892f992fa92fb92fc92fd92fe92ff930093019302930393049305930693079308,
  0x93096d396d276d0c6d436d486d076d046d196d0e6d2b6d4d6d2e6d356d1a6d4f6d526d546d33,
  0x6d916d6f6d9e6da06d5e6d936d946d5c6d606d7c6d636e1a6dc76dc56dde6e0e6dbf6de06e11,
  0x6de66ddd6dd96e166dab6e0c6dae6e2b6e6e6e4e6e6b6eb26e5f6e866e536e546e326e256e44,
  0x6edf6eb16e986ee06f2d6ee26ea56ea76ebd6ebb6eb76ed76eb46ecf6e8f6ec26e9f6f626f46,
  0x6f476f246f156ef96f2f6f366f4b6f746f2a6f096f296f896f8d6f8c6f786f726f7c6f7a6fd1,
  -- E5
  0x930a930b930c930d930e930f9310931193129313931493159316931793189319931a931b931c,
  0x931d931e931f9320932193229323932493259326932793289329932a932b932c932d932e932f,
  0x9330933193329333933493359336933793389339933a933b933c933d933f9340934193429343,
  0x934493459346934793489349934a934b934c934d934e934f9350935193529353935493559356,
  0x935793589359935a935b935c935d935e935f9360936193629363936493659366936793689369,
  0x936b6fc96fa76fb96fb66fc26fe16fee6fde6fe06fef701a7023701b70397035704f705e5b80,
  0x5b845b955b935ba55bb8752f9a9e64345be45bee89305bf08e478b078fb68fd38fd58fe58fee,
  0x8fe48fe98fe68ff38fe890059004900b90269011900d9016902190359036902d902f90449051,
  0x90529050906890589062905b66b99074907d908290889083908b5f505f575f565f585c3b54ab,
  0x5c505c595b715c635c667fbc5f2a5f295f2d82745f3c9b3b5c6e59815983598d59a959aa59a3,
  -- E6
  0x936c936d936e936f9370937193729373937493759376937793789379937a937b937c937d937e,
  0x937f9380938193829383938493859386938793889389938a938b938c938d938e939093919392,
  0x9393939493959396939793989399939a939b939c939d939e939f93a093a193a293a393a493a5,
  0x93a693a793a893a993aa93ab93ac93ad93ae93af93b093b193b293b393b493b593b693b793b8,
  0x93b993ba93bb93bc93bd93be93bf93c093c193c293c393c493c593c693c793c893c993cb93cc,
  0x93cd599759ca59ab599e59a459d259b259af59d759be5a055a0659dd5a0859e359d859f95a0c,
  0x5a095a325a345a115a235a135a405a675a4a5a555a3c5a625a7580ec5aaa5a9b5a775a7a5abe,
  0x5aeb5ab25ad25ad45ab85ae05ae35af15ad65ae65ad85adc5b095b175b165b325b375b405c15,
  0x5c1c5b5a5b655b735b515b535b629a759a779a789a7a9a7f9a7d9a809a819a859a889a8a9a90,
  0x9a929a939a969a989a9b9a9c9a9d9a9f9aa09aa29aa39aa59aa77e9f7ea17ea37ea57ea87ea9,
  -- E7
  0x93ce93cf93d093d193d293d393d493d593d793d893d993da93db93dc93dd93de93df93e093e1,
  0x93e293e393e493e593e693e793e893e993ea93eb93ec93ed93ee93ef93f093f193f293f393f4,
  0x93f593f693f793f893f993fa93fb93fc93fd93fe93ff94009401940294039404940594069407,
  0x94089409940a940b940c940d940e940f9410941194129413941494159416941794189419941a,
  0x941b941c941d941e941f9420942194229423942494259426942794289429942a942b942c942d,
  0x942e7ead7eb07ebe7ec07ec17ec27ec97ecb7ecc7ed07ed47ed77edb7ee07ee17ee87eeb7eee,
  0x7eef7ef17ef27f0d7ef67efa7efb7efe7f017f027f037f077f087f0b7f0c7f0f7f117f127f17,
  0x7f197f1c7f1b7f1f7f217f227f237f247f257f267f277f2a7f2b7f2c7f2d7f2f7f307f317f32,
  0x7f337f355e7a757f5ddb753e9095738e739173ae73a2739f73cf73c273d173b773b373c073c9,
  0x73c873e573d9987c740a73e973e773de73ba73f2740f742a745b7426742574287430742e742c,
  -- E8
  0x942f9430943194329433943494359436943794389439943a943b943c943d943f944094419442,
  0x9443944494459446944794489449944a944b944c944d944e944f945094519452945394549455,
  0x9456945794589459945a945b945c945d945e945f946094619462946394649465946694679468,
  0x9469946a946c946d946e946f9470947194729473947494759476947794789479947a947b947c,
  0x947d947e947f9480948194829483948494919496949894c794cf94d394d494da94e694fb951c,
  0x9520741b741a7441745c7457745574597477746d747e749c748e748074817487748b749e74a8,
  0x74a9749074a774d274ba97ea97eb97ec674c6753675e6748676967a56787676a6773679867a7,
  0x677567a8679e67ad678b6777677c67f0680967d8680a67e967b0680c67d967b567da67b367dd,
  0x680067c367b867e2680e67c167fd6832683368606861684e6862684468646883681d68556866,
  0x684168676840683e684a6849682968b5688f687468776893686b68c2696e68fc691f692068f9,
  -- E9
  0x95279533953d95439548954b9555955a9560956e95749575957795789579957a957b957c957d,
  0x957e9580958195829583958495859586958795889589958a958b958c958d958e958f95909591,
  0x95929593959495959596959795989599959a959b959c959d959e959f95a095a195a295a395a4,
  0x95a595a695a795a895a995aa95ab95ac95ad95ae95af95b095b195b295b395b495b595b695b7,
  0x95b895b995ba95bb95bc95bd95be95bf95c095c195c295c395c495c595c695c795c895c995ca,
  0x95cb692468f0690b6901695768e369106971693969606942695d6984696b6980699869786934,
  0x69cc6987698869ce6989696669636979699b69a769bb69ab69ad69d469b169c169ca69df6995,
  0x69e0698d69ff6a2f69ed6a176a186a6569f26a446a3e6aa06a506a5b6a356a8e6a796a3d6a28,
  0x6a586a7c6a916a906aa96a976aab733773526b816b826b876b846b926b936b8d6b9a6b9b6ba1,
  0x6baa8f6b8f6d8f718f728f738f758f768f788f778f798f7a8f7c8f7e8f818f828f848f878f8b,
  -- EA
  0x95cc95cd95ce95cf95d095d195d295d395d495d595d695d795d895d995da95db95dc95dd95de,
  0x95df95e095e195e295e395e495e595e695e795ec95ff960796139618961b961e962096239624,
  0x96259626962796289629962b962c962d962f9630963796389639963a963e96419643964a964e,
  0x964f9651965296539656965796589659965a965c965d965e9660966396659666966b966d966e,
  0x966f96709671967396789679967a967b967c967d967e967f9680968196829683968496879689,
  0x968a8f8d8f8e8f8f8f988f9a8ece620b6217621b621f6222622162256224622c81e774ef74f4,
  0x74ff750f75117513653465ee65ef65f0660a66196772660366156600708566f7661d66346631,
  0x663666358006665f66546641664f66566661665766776684668c66a7669d66be66db66dc66e6,
  0x66e98d328d338d368d3b8d3d8d408d458d468d488d498d478d4d8d558d5989c789ca89cb89cc,
  0x89ce89cf89d089d1726e729f725d7266726f727e727f7284728b728d728f72926308633263b0,
  -- EB
  0x968c968e96919692969396959696969a969b969d969e969f96a096a196a296a396a496a596a6,
  0x96a896a996aa96ab96ac96ad96ae96af96b196b296b496b596b796b896ba96bb96bf96c296c3,
  0x96c896ca96cb96d096d196d396d496d696d796d896d996da96db96dc96dd96de96df96e196e2,
  0x96e396e496e596e696e796eb96ec96ed96ee96f096f196f296f496f596f896fa96fb96fc96fd,
  0x96ff970297039705970a970b970c97109711971297149715971797189719971a971b971d971f,
  0x9720643f64d880046bea6bf36bfd6bf56bf96c056c076c066c0d6c156c186c196c1a6c216c29,
  0x6c246c2a6c3265356555656b724d72527256723086625216809f809c809380bc670a80bd80b1,
  0x80ab80ad80b480b780e780e880e980ea80db80c280c480d980cd80d7671080dd80eb80f180f4,
  0x80ed810d810e80f280fc671581128c5a8136811e812c811881328148814c815381748159815a,
  0x817181608169817c817d816d8167584d5ab58188818281916ed581a381aa81cc672681ca81bb,
  -- EC
  0x972197229723972497259726972797289729972b972c972e972f973197339734973597369737,
  0x973a973b973c973d973f9740974197429743974497459746974797489749974a974b974c974d,
  0x974e974f975097519754975597579758975a975c975d975f97639764976697679768976a976b,
  0x976c976d976e976f9770977197729775977797789779977a977b977d977e977f978097819782,
  0x978397849786978797889789978a978c978e978f979097939795979697979799979a979b979c,
  0x979d81c181a66b246b376b396b436b466b5998d198d298d398d598d998da6bb35f406bc289f3,
  0x65909f51659365bc65c665c465c365cc65ce65d265d67080709c7096709d70bb70c070b770ab,
  0x70b170e870ca711071137116712f71317173715c716871457172714a7178717a719871b371b5,
  0x71a871a071e071d471e771f9721d7228706c7118716671b9623e623d624362486249793b7940,
  0x79467949795b795c7953795a796279577960796f7967797a7985798a799a79a779b35fd15fd0,
  -- ED
  0x979e979f97a197a297a497a597a697a797a897a997aa97ac97ae97b097b197b397b597b697b7,
  0x97b897b997ba97bb97bc97bd97be97bf97c097c197c297c397c497c597c697c797c897c997ca,
  0x97cb97cc97cd97ce97cf97d097d197d297d397d497d597d697d797d897d997da97db97dc97dd,
  0x97de97df97e097e197e297e397e497e597e897ee97ef97f097f197f297f497f797f897f997fa,
  0x97fb97fc97fd97fe97ff9800980198029803980498059806980798089809980a980b980c980d,
  0x980e603c605d605a606760416059606360ab6106610d615d61a9619d61cb61d162068080807f,
  0x6c936cf66dfc77f677f87800780978177818781165ab782d781c781d7839783a783b781f783c,
  0x7825782c78237829784e786d78567857782678507847784c786a789b7893789a7887789c78a1,
  0x78a378b278b978a578d478d978c978ec78f2790578f479137924791e79349f9b9ef99efb9efc,
  0x76f17704770d76f977077708771a77227719772d7726773577387750775177477743775a7768,
  -- EE
  0x980f9810981198129813981498159816981798189819981a981b981c981d981e981f98209821,
  0x98229823982498259826982798289829982a982b982c982d982e982f98309831983298339834,
  0x98359836983798389839983a983b983c983d983e983f98409841984298439844984598469847,
  0x98489849984a984b984c984d984e984f9850985198529853985498559856985798589859985a,
  0x985b985c985d985e985f9860986198629863986498659866986798689869986a986b986c986d,
  0x986e77627765777f778d777d7780778c7791779f77a077b077b577bd753a7540754e754b7548,
  0x755b7572757975837f587f617f5f8a487f687f747f717f797f817f7e76cd76e5883294859486,
  0x9487948b948a948c948d948f9490949494979495949a949b949c94a394a494ab94aa94ad94ac,
  0x94af94b094b294b494b694b794b894b994ba94bc94bd94bf94c494c894c994ca94cb94cc94cd,
  0x94ce94d094d194d294d594d694d794d994d894db94de94df94e094e294e494e594e794e894ea,
  -- EF
  0x986f98709871987298739874988b988e98929895989998a398a898a998aa98ab98ac98ad98ae,
  0x98af98b098b198b298b398b498b598b698b798b898b998ba98bb98bc98bd98be98bf98c098c1,
  0x98c298c398c498c598c698c798c898c998ca98cb98cc98cd98cf98d098d498d698d798db98dc,
  0x98dd98e098e198e298e398e498e598e698e998ea98eb98ec98ed98ee98ef98f098f198f298f3,
  0x98f498f598f698f798f898f998fa98fb98fc98fd98fe98ff9900990199029903990499059906,
  0x990794e994eb94ee94ef94f394f494f594f794f994fc94fd94ff95039502950695079509950a,
  0x950d950e950f951295139514951595169518951b951d951e951f9522952a952b9529952c9531,
  0x95329534953695379538953c953e953f954295359544954595469549954c954e954f95529553,
  0x95549556955795589559955b955e955f955d95619562956495659566956795689569956a956b,
  0x956c956f957195729573953a77e777ec96c979d579ed79e379eb7a065d477a037a027a1e7a14,
  -- F0
  0x99089909990a990b990c990e990f991199129913991499159916991799189919991a991b991c,
  0x991d991e991f9920992199229923992499259926992799289929992a992b992c992d992f9930,
  0x993199329933993499359936993799389939993a993b993c993d993e993f9940994199429943,
  0x994499459946994799489949994a994b994c994d994e994f9950995199529953995699579958,
  0x9959995a995b995c995d995e995f99609961996299649966997399789979997b997e99829983,
  0x99897a397a377a519ecf99a57a707688768e7693769976a474de74e0752c9e209e229e289e29,
  0x9e2a9e2b9e2c9e329e319e369e389e379e399e3a9e3e9e419e429e449e469e479e489e499e4b,
  0x9e4c9e4e9e519e559e579e5a9e5b9e5c9e5e9e639e669e679e689e699e6a9e6b9e6c9e719e6d,
  0x9e7375927594759675a0759d75ac75a375b375b475b875c475b175b075c375c275d675cd75e3,
  0x75e875e675e475eb75e7760375f175fc75ff761076007605760c7617760a7625761876157619,
  -- F1
  0x998c998e999a999b999c999d999e999f99a099a199a299a399a499a699a799a999aa99ab99ac,
  0x99ad99ae99af99b099b199b299b399b499b599b699b799b899b999ba99bb99bc99bd99be99bf,
  0x99c099c199c299c399c499c599c699c799c899c999ca99cb99cc99cd99ce99cf99d099d199d2,
  0x99d399d499d599d699d799d899d999da99db99dc99dd99de99df99e099e199e299e399e499e5,
  0x99e699e799e899e999ea99eb99ec99ed99ee99ef99f099f199f299f399f499f599f699f799f8,
  0x99f9761b763c762276207640762d7630763f76357643763e7633764d765e7654765c7656766b,
  0x766f7fca7ae67a787a797a807a867a887a957aa67aa07aac7aa87aad7ab3886488698872887d,
  0x887f888288a288c688b788bc88c988e288ce88e388e588f1891a88fc88e888fe88f089218919,
  0x8913891b890a8934892b893689418966897b758b80e576b276b477dc801280148016801c8020,
  0x8022802580268027802980288031800b803580438046804d8052806980718983987898809883,
  -- F2
  0x99fa99fb99fc99fd99fe99ff9a009a019a029a039a049a059a069a079a089a099a0a9a0b9a0c,
  0x9a0d9a0e9a0f9a109a119a129a139a149a159a169a179a189a199a1a9a1b9a1c9a1d9a1e9a1f,
  0x9a209a219a229a239a249a259a269a279a289a299a2a9a2b9a2c9a2d9a2e9a2f9a309a319a32,
  0x9a339a349a359a369a379a389a399a3a9a3b9a3c9a3d9a3e9a3f9a409a419a429a439a449a45,
  0x9a469a479a489a499a4a9a4b9a4c9a4d9a4e9a4f9a509a519a529a539a549a559a569a579a58,
  0x9a599889988c988d988f9894989a989b989e989f98a198a298a598a6864d8654866c866e867f,
  0x867a867c867b86a8868d868b86ac869d86a786a386aa869386a986b686c486b586ce86b086ba,
  0x86b186af86c986cf86b486e986f186f286ed86f386d0871386de86f486df86d886d187038707,
  0x86f88708870a870d87098723873b871e8725872e871a873e87488734873187298737873f8782,
  0x8722877d877e877b87608770874c876e878b87538763877c876487598765879387af87a887d2,
  -- F3
  0x9a5a9a5b9a5c9a5d9a5e9a5f9a609a619a629a639a649a659a669a679a689a699a6a9a6b9a72,
  0x9a839a899a8d9a8e9a949a959a999aa69aa99aaa9aab9aac9aad9aae9aaf9ab29ab39ab49ab5,
  0x9ab99abb9abd9abe9abf9ac39ac49ac69ac79ac89ac99aca9acd9ace9acf9ad09ad29ad49ad5,
  0x9ad69ad79ad99ada9adb9adc9add9ade9ae09ae29ae39ae49ae59ae79ae89ae99aea9aec9aee,
  0x9af09af19af29af39af49af59af69af79af89afa9afc9afd9afe9aff9b009b019b029b049b05,
  0x9b0687c68788878587ad8797878387ab87e587ac87b587b387cb87d387bd87d187c087ca87db,
  0x87ea87e087ee8816881387fe880a881b88218839883c7f367f427f447f4582107afa7afd7b08,
  0x7b037b047b157b0a7b2b7b0f7b477b387b2a7b197b2e7b317b207b257b247b337b3e7b1e7b58,
  0x7b5a7b457b757b4c7b5d7b607b6e7b7b7b627b727b717b907ba67ba77bb87bac7b9d7ba87b85,
  0x7baa7b9c7ba27bab7bb47bd17bc17bcc7bdd7bda7be57be67bea7c0c7bfe7bfc7c0f7c167c0b,
  -- F4
  0x9b079b099b0a9b0b9b0c9b0d9b0e9b109b119b129b149b159b169b179b189b199b1a9b1b9b1c,
  0x9b1d9b1e9b209b219b229b249b259b269b279b289b299b2a9b2b9b2c9b2d9b2e9b309b319b33,
  0x9b349b359b369b379b389b399b3a9b3d9b3e9b3f9b409b469b4a9b4b9b4c9b4e9b509b529b53,
  0x9b559b569b579b589b599b5a9b5b9b5c9b5d9b5e9b5f9b609b619b629b639b649b659b669b67,
  0x9b689b699b6a9b6b9b6c9b6d9b6e9b6f9b709b719b729b739b749b759b769b779b789b799b7a,
  0x9b7b7c1f7c2a7c267c387c417c4081fe82018202820481ec8844822182228223822d822f8228,
  0x822b8238823b82338234823e82448249824b824f825a825f8268887e8885888888d888df895e,
  0x7f9d7f9f7fa77faf7fb07fb27c7c65497c917c9d7c9c7c9e7ca27cb27cbc7cbd7cc17cc77ccc,
  0x7ccd7cc87cc57cd77ce8826e66a87fbf7fce7fd57fe57fe17fe67fe97fee7ff37cf87d777da6,
  0x7dae7e477e9b9eb89eb48d738d848d948d918db18d678d6d8c478c49914a9150914e914f9164,
  -- F5
  0x9b7c9b7d9b7e9b7f9b809b819b829b839b849b859b869b879b889b899b8a9b8b9b8c9b8d9b8e,
  0x9b8f9b909b919b929b939b949b959b969b979b989b999b9a9b9b9b9c9b9d9b9e9b9f9ba09ba1,
  0x9ba29ba39ba49ba59ba69ba79ba89ba99baa9bab9bac9bad9bae9baf9bb09bb19bb29bb39bb4,
  0x9bb59bb69bb79bb89bb99bba9bbb9bbc9bbd9bbe9bbf9bc09bc19bc29bc39bc49bc59bc69bc7,
  0x9bc89bc99bca9bcb9bcc9bcd9bce9bcf9bd09bd19bd29bd39bd49bd59bd69bd79bd89bd99bda,
  0x9bdb9162916191709169916f917d917e917291749179918c91859190918d919191a291a391aa,
  0x91ad91ae91af91b591b491ba8c559e7e8db88deb8e058e598e698db58dbf8dbc8dba8dc48dd6,
  0x8dd78dda8dde8dce8dcf8ddb8dc68dec8df78df88de38df98dfb8de48e098dfd8e148e1d8e1f,
  0x8e2c8e2e8e238e2f8e3a8e408e398e358e3d8e318e498e418e428e518e528e4a8e708e768e7c,
  0x8e6f8e748e858e8f8e948e908e9c8e9e8c788c828c8a8c858c988c94659b89d689de89da89dc,
  -- F6
  0x9bdc9bdd9bde9bdf9be09be19be29be39be49be59be69be79be89be99bea9beb9bec9bed9bee,
  0x9bef9bf09bf19bf29bf39bf49bf59bf69bf79bf89bf99bfa9bfb9bfc9bfd9bfe9bff9c009c01,
  0x9c029c039c049c059c069c079c089c099c0a9c0b9c0c9c0d9c0e9c0f9c109c119c129c139c14,
  0x9c159c169c179c189c199c1a9c1b9c1c9c1d9c1e9c1f9c209c219c229c239c249c259c269c27,
  0x9c289c299c2a9c2b9c2c9c2d9c2e9c2f9c309c319c329c339c349c359c369c379c389c399c3a,
  0x9c3b89e589eb89ef8a3e8b26975396e996f396ef970697019708970f970e972a972d9730973e,
  0x9f809f839f859f869f879f889f899f8a9f8c9efe9f0b9f0d96b996bc96bd96ce96d277bf96e0,
  0x928e92ae92c8933e936a93ca938f943e946b9c7f9c829c859c869c879c887a239c8b9c8e9c90,
  0x9c919c929c949c959c9a9c9b9c9e9c9f9ca09ca19ca29ca39ca59ca69ca79ca89ca99cab9cad,
  0x9cae9cb09cb19cb29cb39cb49cb59cb69cb79cba9cbb9cbc9cbd9cc49cc59cc69cc79cca9ccb,
  -- F7
  0x9c3c9c3d9c3e9c3f9c409c419c429c439c449c459c469c479c489c499c4a9c4b9c4c9c4d9c4e,
  0x9c4f9c509c519c529c539c549c559c569c579c589c599c5a9c5b9c5c9c5d9c5e9c5f9c609c61,
  0x9c629c639c649c659c669c679c689c699c6a9c6b9c6c9c6d9c6e9c6f9c709c719c729c739c74,
  0x9c759c769c779c789c799c7a9c7b9c7d9c7e9c809c839c849c899c8a9c8c9c8f9c939c969c97,
  0x9c989c999c9d9caa9cac9caf9cb99cbe9cbf9cc09cc19cc29cc89cc99cd19cd29cda9cdb9ce0,
  0x9ce19ccc9ccd9cce9ccf9cd09cd39cd49cd59cd79cd89cd99cdc9cdd9cdf9ce2977c97859791,
  0x9792979497af97ab97a397b297b49ab19ab09ab79e589ab69aba9abc9ac19ac09ac59ac29acb,
  0x9acc9ad19b459b439b479b499b489b4d9b5198e8990d992e995599549adf9ae19ae69aef9aeb,
  0x9afb9aed9af99b089b0f9b139b1f9b239ebd9ebe7e3b9e829e879e889e8b9e9293d69e9d9e9f,
  0x9edb9edc9edd9ee09edf9ee29ee99ee79ee59eea9eef9f229f2c9f2f9f399f379f3d9f3e9f44,
  -- F8
  0x9ce39ce49ce59ce69ce79ce89ce99cea9ceb9cec9ced9cee9cef9cf09cf19cf29cf39cf49cf5,
  0x9cf69cf79cf89cf99cfa9cfb9cfc9cfd9cfe9cff9d009d019d029d039d049d059d069d079d08,
  0x9d099d0a9d0b9d0c9d0d9d0e9d0f9d109d119d129d139d149d159d169d179d189d199d1a9d1b,
  0x9d1c9d1d9d1e9d1f9d209d219d229d239d249d259d269d279d289d299d2a9d2b9d2c9d2d9d2e,
  0x9d2f9d309d319d329d339d349d359d369d379d389d399d3a9d3b9d3c9d3d9d3e9d3f9d409d41,
  0x9d42e234e235e236e237e238e239e23ae23be23ce23de23ee23fe240e241e242e243e244e245,
  0xe246e247e248e249e24ae24be24ce24de24ee24fe250e251e252e253e254e255e256e257e258,
  0xe259e25ae25be25ce25de25ee25fe260e261e262e263e264e265e266e267e268e269e26ae26b,
  0xe26ce26de26ee26fe270e271e272e273e274e275e276e277e278e279e27ae27be27ce27de27e,
  0xe27fe280e281e282e283e284e285e286e287e288e289e28ae28be28ce28de28ee28fe290e291,
  -- F9
  0x9d439d449d459d469d479d489d499d4a9d4b9d4c9d4d9d4e9d4f9d509d519d529d539d549d55,
  0x9d569d579d589d599d5a9d5b9d5c9d5d9d5e9d5f9d609d619d629d639d649d659d669d679d68,
  0x9d699d6a9d6b9d6c9d6d9d6e9d6f9d709d719d729d739d749d759d769d779d789d799d7a9d7b,
  0x9d7c9d7d9d7e9d7f9d809d819d829d839d849d859d869d879d889d899d8a9d8b9d8c9d8d9d8e,
  0x9d8f9d909d919d929d939d949d959d969d979d989d999d9a9d9b9d9c9d9d9d9e9d9f9da09da1,
  0x9da2e292e293e294e295e296e297e298e299e29ae29be29ce29de29ee29fe2a0e2a1e2a2e2a3,
  0xe2a4e2a5e2a6e2a7e2a8e2a9e2aae2abe2ace2ade2aee2afe2b0e2b1e2b2e2b3e2b4e2b5e2b6,
  0xe2b7e2b8e2b9e2bae2bbe2bce2bde2bee2bfe2c0e2c1e2c2e2c3e2c4e2c5e2c6e2c7e2c8e2c9,
  0xe2cae2cbe2cce2cde2cee2cfe2d0e2d1e2d2e2d3e2d4e2d5e2d6e2d7e2d8e2d9e2dae2dbe2dc,
  0xe2dde2dee2dfe2e0e2e1e2e2e2e3e2e4e2e5e2e6e2e7e2e8e2e9e2eae2ebe2ece2ede2eee2ef,
  -- FA
  0x9da39da49da59da69da79da89da99daa9dab9dac9dad9dae9daf9db09db19db29db39db49db5,
  0x9db69db79db89db99dba9dbb9dbc9dbd9dbe9dbf9dc09dc19dc29dc39dc49dc59dc69dc79dc8,
  0x9dc99dca9dcb9dcc9dcd9dce9dcf9dd09dd19dd29dd39dd49dd59dd69dd79dd89dd99dda9ddb,
  0x9ddc9ddd9dde9ddf9de09de19de29de39de49de59de69de79de89de99dea9deb9dec9ded9dee,
  0x9def9df09df19df29df39df49df59df69df79df89df99dfa9dfb9dfc9dfd9dfe9dff9e009e01,
  0x9e02e2f0e2f1e2f2e2f3e2f4e2f5e2f6e2f7e2f8e2f9e2fae2fbe2fce2fde2fee2ffe300e301,
  0xe302e303e304e305e306e307e308e309e30ae30be30ce30de30ee30fe310e311e312e313e314,
  0xe315e316e317e318e319e31ae31be31ce31de31ee31fe320e321e322e323e324e325e326e327,
  0xe328e329e32ae32be32ce32de32ee32fe330e331e332e333e334e335e336e337e338e339e33a,
  0xe33be33ce33de33ee33fe340e341e342e343e344e345e346e347e348e349e34ae34be34ce34d,
  -- FB
  0x9e039e049e059e069e079e089e099e0a9e0b9e0c9e0d9e0e9e0f9e109e119e129e139e149e15,
  0x9e169e179e189e199e1a9e1b9e1c9e1d9e1e9e249e279e2e9e309e349e3b9e3c9e409e4d9e50,
  0x9e529e539e549e569e599e5d9e5f9e609e619e629e659e6e9e6f9e729e749e759e769e779e78,
  0x9e799e7a9e7b9e7c9e7d9e809e819e839e849e859e869e899e8a9e8c9e8d9e8e9e8f9e909e91,
  0x9e949e959e969e979e989e999e9a9e9b9e9c9e9e9ea09ea19ea29ea39ea49ea59ea79ea89ea9,
  0x9eaae34ee34fe350e351e352e353e354e355e356e357e358e359e35ae35be35ce35de35ee35f,
  0xe360e361e362e363e364e365e366e367e368e369e36ae36be36ce36de36ee36fe370e371e372,
  0xe373e374e375e376e377e378e379e37ae37be37ce37de37ee37fe380e381e382e383e384e385,
  0xe386e387e388e389e38ae38be38ce38de38ee38fe390e391e392e393e394e395e396e397e398,
  0xe399e39ae39be39ce39de39ee39fe3a0e3a1e3a2e3a3e3a4e3a5e3a6e3a7e3a8e3a9e3aae3ab,
  -- FC
  0x9eab9eac9ead9eae9eaf9eb09eb19eb29eb39eb59eb69eb79eb99eba9ebc9ebf9ec09ec19ec2,
  0x9ec39ec59ec69ec79ec89eca9ecb9ecc9ed09ed29ed39ed59ed69ed79ed99eda9ede9ee19ee3,
  0x9ee49ee69ee89eeb9eec9eed9eee9ef09ef19ef29ef39ef49ef59ef69ef79ef89efa9efd9eff,
  0x9f009f019f029f039f049f059f069f079f089f099f0a9f0c9f0f9f119f129f149f159f169f18,
  0x9f1a9f1b9f1c9f1d9f1e9f1f9f219f239f249f259f269f279f289f299f2a9f2b9f2d9f2e9f30,
  0x9f31e3ace3ade3aee3afe3b0e3b1e3b2e3b3e3b4e3b5e3b6e3b7e3b8e3b9e3bae3bbe3bce3bd,
  0xe3bee3bfe3c0e3c1e3c2e3c3e3c4e3c5e3c6e3c7e3c8e3c9e3cae3cbe3cce3cde3cee3cfe3d0,
  0xe3d1e3d2e3d3e3d4e3d5e3d6e3d7e3d8e3d9e3dae3dbe3dce3dde3dee3dfe3e0e3e1e3e2e3e3,
  0xe3e4e3e5e3e6e3e7e3e8e3e9e3eae3ebe3ece3ede3eee3efe3f0e3f1e3f2e3f3e3f4e3f5e3f6,
  0xe3f7e3f8e3f9e3fae3fbe3fce3fde3fee3ffe400e401e402e403e404e405e406e407e408e409,
  -- FD
  0x9f329f339f349f359f369f389f3a9f3c9f3f9f409f419f429f439f459f469f479f489f499f4a,
  0x9f4b9f4c9f4d9f4e9f4f9f529f539f549f559f569f579f589f599f5a9f5b9f5c9f5d9f5e9f5f,
  0x9f609f619f629f639f649f659f669f679f689f699f6a9f6b9f6c9f6d9f6e9f6f9f709f719f72,
  0x9f739f749f759f769f779f789f799f7a9f7b9f7c9f7d9f7e9f819f829f8d9f8e9f8f9f909f91,
  0x9f929f939f949f959f969f979f989f9c9f9d9f9e9fa19fa29fa39fa49fa5f92cf979f995f9e7,
  0xf9f1e40ae40be40ce40de40ee40fe410e411e412e413e414e415e416e417e418e419e41ae41b,
  0xe41ce41de41ee41fe420e421e422e423e424e425e426e427e428e429e42ae42be42ce42de42e,
  0xe42fe430e431e432e433e434e435e436e437e438e439e43ae43be43ce43de43ee43fe440e441,
  0xe442e443e444e445e446e447e448e449e44ae44be44ce44de44ee44fe450e451e452e453e454,
  0xe455e456e457e458e459e45ae45be45ce45de45ee45fe460e461e462e463e464e465e466e467,
  -- FE
  0xfa0cfa0dfa0efa0ffa11fa13fa14fa18fa1ffa20fa21fa23fa24fa27fa28fa292e81e816e817,
  0xe8182e84347334472e882e8b9fb4359e361a360e2e8c2e97396e39189fb539cf39df3a7339d0,
  0x9fb69fb73b4e3c6e3ce02ea7e8319fb82eaa4056415f2eae43372eb32eb62eb7e83b43b143ac,
  0x2ebb43dd44d64661464c9fb947234729477c478d2eca4947497a497d4982498349854986499f,
  0x499b49b749b69fbae8554ca34c9f4ca04ca14c774ca24d134d144d154d164d174d184d194dae,
  0x9fbbe468e469e46ae46be46ce46de46ee46fe470e471e472e473e474e475e476e477e478e479,
  0xe47ae47be47ce47de47ee47fe480e481e482e483e484e485e486e487e488e489e48ae48be48c,
  0xe48de48ee48fe490e491e492e493e494e495e496e497e498e499e49ae49be49ce49de49ee49f,
  0xe4a0e4a1e4a2e4a3e4a4e4a5e4a6e4a7e4a8e4a9e4aae4abe4ace4ade4aee4afe4b0e4b1e4b2,
  0xe4b3e4b4e4b5e4b6e4b7e4b8e4b9e4bae4bbe4bce4bde4bee4bfe4c0e4c1e4c2e4c3e4c4e4c5]

/-- The code point in cell `n`, counting through all rows. -/
def pairCode? (n : Nat) : Option Nat :=
  (pairWords[n / cellsPerWord]?).map fun word =>
    (word >>> (16 * (cellsPerWord - 1 - n % cellsPerWord))) % 65536

end WifiNames.Charset.Gb18030
